import Stencil.Plugin
import Stencil.Text.Blank
import Stencil.Text.LetterCase

/-! # The text plugin

Functions that work on the main input alone and neither fail nor wait.
-/

namespace Stencil

/-- The functions of the text plugin. -/
inductive TextOperation where
  | trim
  | trimStart
  | trimEnd
  | uppercase
  | lowercase
  | length
  | concat
  | echo

namespace TextOperation

def all : List TextOperation :=
  [trim, trimStart, trimEnd, uppercase, lowercase, length, concat, echo]

def name : TextOperation → Text
  | trim => "trim".toList
  | trimStart => "trimStart".toList
  | trimEnd => "trimEnd".toList
  | uppercase => "uppercase".toList
  | lowercase => "lowercase".toList
  | length => "length".toList
  | concat => "concat".toList
  | echo => "echo".toList

def description : TextOperation → Text
  | trim => "Trim whitespace from the start and end of the input".toList
  | trimStart => "Trim whitespace from the start of the input".toList
  | trimEnd => "Trim whitespace from the end of the input".toList
  | uppercase => "Convert the input to uppercase".toList
  | lowercase => "Convert the input to lowercase".toList
  | length => "Count the characters in the input".toList
  | concat => "Append `input2` to the input".toList
  | echo => "Return the input unchanged".toList

def apply (function : TextOperation) (vars : Variables) : Text :=
  match function with
  | trim => vars.input.trim
  | trimStart => vars.input.trimStart
  | trimEnd => vars.input.trimEnd
  | uppercase => vars.input.upper
  | lowercase => vars.input.lower
  | length => Text.decimal vars.input.length
  | concat => vars.input ++ (vars.get? "input2".toList).getD []
  | echo => vars.input

def toFunction (σ : Type) (function : TextOperation) : Function σ where
  name := function.name
  description := function.description
  invoke context := .finish (.ok (function.apply context.vars))

end TextOperation

def Plugin.text (σ : Type) : Plugin σ :=
  (TextOperation.all.map (TextOperation.toFunction σ)).foldl Plugin.add
    (.named "text".toList "Basic string helpers".toList)

end Stencil
