import Stencil.Expression.Basic

/-! # Blocks

A template is a list of blocks. Reading a template yields text, variables,
literals and calls; a call can further be taken apart into its function and
its arguments, which are blocks too.
-/

namespace Stencil

/-- One piece of a template. -/
inductive Block where
  | text (content : Text)
  | var (name : Text)
  | literal (literal : Literal)
  | binding (binding : Binding)
  | function (ref : FunctionRef)
  /-- A call, with the text between the braces less the blanks around it. -/
  | call (content : Text) (call : Call)
deriving DecidableEq

namespace Block

/-- The block as it is shown; a call is shown without its braces. -/
def content : Block → Text
  | text t => t
  | var name => '$' :: name
  | literal l => l.content
  | binding b => b.content
  | function ref => ref.content
  | call t _ => t

def kind : Block → Text
  | text _ => "text".toList
  | var _ => "variable".toList
  | literal _ => "value".toList
  | binding _ => "namedArg".toList
  | function _ => "functionId".toList
  | call _ _ => "code".toList

/-- The variables that a block reads, repeated as often as they are read. -/
def reads : Block → List Text
  | var name => [name]
  | binding b => b.value.reads?.toList
  | call _ c => c.reads
  | _ => []

def ofOperand : Operand → Block
  | .literal l => .literal l
  | .var name => .var name

def ofExpression (content : Text) : Expression → Block
  | .operand a => ofOperand a
  | .call c => .call content c

/-- A call taken apart into its function and its arguments; any other block alone. -/
def parts : Block → List Block
  | call _ c =>
    .function c.function :: c.input.toList.map ofOperand ++ c.named.map .binding
  | block => [block]

end Block

end Stencil
