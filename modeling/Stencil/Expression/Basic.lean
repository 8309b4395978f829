import Stencil.Literal

/-! # Expressions

What a block between double braces can say: a lone variable or literal, or a
call of a function with at most one unnamed argument followed by named ones.
-/

namespace Stencil

/-- An argument: a literal, or the name of a variable to look up. -/
inductive Operand where
  | literal (literal : Literal)
  | var (name : Text)
deriving DecidableEq

namespace Operand

def content : Operand → Text
  | literal l => l.content
  | var name => '$' :: name

/-- The variable that the argument reads, if it reads one. -/
def reads? : Operand → Option Text
  | literal _ => none
  | var name => some name

end Operand

/-- A named argument. -/
structure Binding where
  name : Text
  value : Operand
deriving DecidableEq

/-- The named argument as it is shown, with nothing around the equals sign. -/
def Binding.content (binding : Binding) : Text :=
  binding.name ++ '=' :: binding.value.content

/-- A function's name, with the plugin to look in when one was written. -/
structure FunctionRef where
  plugin : Option Text
  function : Text
deriving DecidableEq

/-- The function name as written, the plugin before the dot. -/
def FunctionRef.content (ref : FunctionRef) : Text :=
  match ref.plugin with
  | none => ref.function
  | some plugin => plugin ++ '.' :: ref.function

/-- A call: the function, its unnamed argument, and its named arguments in written order. -/
structure Call where
  function : FunctionRef
  input : Option Operand
  named : List Binding
deriving DecidableEq

/-- The arguments of a call in the order in which they are resolved. -/
def Call.operands (call : Call) : List Operand :=
  call.input.toList ++ call.named.map Binding.value

/-- The variables that a call reads, repeated as often as they are read. -/
def Call.reads (call : Call) : List Text := call.operands.filterMap Operand.reads?

/-- The meaning of the inside of a block. -/
inductive Expression where
  | operand (operand : Operand)
  | call (call : Call)
deriving DecidableEq

/-- The variables that an expression reads, repeated as often as they are read. -/
def Expression.reads : Expression → List Text
  | operand a => a.reads?.toList
  | call c => c.reads

end Stencil
