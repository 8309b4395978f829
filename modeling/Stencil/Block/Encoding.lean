import Stencil.Block.Basic
import Stencil.Config.Basic
import Stencil.Value

/-! # Blocks as values

The form in which blocks and parameters are handed to other programs: an object
for each, whose first member tells its kind.
-/

namespace Stencil

def Value.ofText? : Option Text → Value
  | some text => .string text
  | none => .null

def Operand.toValue (operand : Operand) : Value :=
  let kind := match operand with
    | .literal _ => "value"
    | .var _ => "variable"
  .object [("type".toList, .string kind.toList), ("content".toList, .string operand.content)]

def Binding.toMembers (binding : Binding) : List (Text × Value) :=
  [("name".toList, .string binding.name), ("value".toList, binding.value.toValue),
    ("content".toList, .string binding.content)]

def FunctionRef.toMembers (ref : FunctionRef) : List (Text × Value) :=
  [("content".toList, .string ref.content), ("plugin_name".toList, .ofText? ref.plugin),
    ("function_name".toList, .string ref.function)]

/-- The inside of a block: the function, the unnamed argument and the named ones. -/
def Expression.memberValues (function : Option FunctionRef) (input : Option Operand)
    (named : List Binding) : Value :=
  .object [
    ("function".toList, (function.map fun ref => Value.object ref.toMembers).getD .null),
    ("positional".toList, (input.map Operand.toValue).getD .null),
    ("named".toList, .list (named.map fun binding => .object binding.toMembers))]

def Call.toValue (call : Call) : Value :=
  Expression.memberValues (some call.function) call.input call.named

def Expression.toValue : Option Expression → Value
  | none => memberValues none none []
  | some (.operand a) => memberValues none (some a) []
  | some (.call c) => c.toValue

def Block.toMembers : Block → List (Text × Value)
  | .binding b => b.toMembers
  | .function ref => ref.toMembers
  | .call content c => [("content".toList, .string content), ("expression".toList, c.toValue)]
  | block => [("content".toList, .string block.content)]

def Block.toValue (block : Block) : Value :=
  .object (("type".toList, .string block.kind) :: block.toMembers)

end Stencil
