import Stencil.Template.Basic

/-! # Reports of errors

What a reader of an error is shown besides its message: a stable code, a hint,
and the places in the template that are at fault.
-/

namespace Stencil.Template.Error

def message : Template.Error → Text
  | refused refusal => refusal.error.cause.message
  | render error => error.message

def code : Template.Error → Text
  | refused _ => "blockprompt::syntax".toList
  | render (.functionNotFound _) => "blockprompt::function_not_found".toList
  | render (.functionFailed _) => "blockprompt::function".toList
  | render .cancelled => "blockprompt::cancelled".toList

def help? : Template.Error → Option Text
  | refused _ =>
    some ("code blocks look like `\x7b\x7b [plugin.]function [$var | 'value'] " ++
      "[name='value' | name=$var]* \x7d\x7d`").toList
  | render (.functionNotFound _) =>
    some "register the function with a plugin before rendering the template".toList
  | _ => none

def labels : Template.Error → List (Text × Span)
  | refused refusal => [("here".toList, refusal.error.span)]
  | render _ => []

def template? : Template.Error → Option Text
  | refused refusal => some refusal.template
  | render _ => none

end Stencil.Template.Error
