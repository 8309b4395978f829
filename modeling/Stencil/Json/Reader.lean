import Stencil.Json.Token

/-! # Reading JSON

Tokens are read one by one with the containers that are open held on a stack. A
container nested deeper than 127 levels, and an object with a name that has no
value, are well written but have no value themselves.
-/

namespace Stencil.Json

/-- A container that is still open, its latest item or member first. -/
inductive Frame where
  | list (items : List Value)
  | object (members : List (Option Text × Value)) (name : Option Text)

/-- How far a reading has come. -/
inductive State where
  | value (stack : List Frame)
  | firstItem (stack : List Frame)
  | firstName (stack : List Frame)
  | name (members : List (Option Text × Value)) (stack : List Frame)
  | colon (members : List (Option Text × Value)) (name : Option Text) (stack : List Frame)
  /-- A value is complete; with an empty stack it is the whole document. -/
  | filled (value : Value) (stack : List Frame)

def depthLimit : Nat := 127

def closeList (items : List Value) (stack : List Frame) : State :=
  .filled (if stack.length < depthLimit then .list items.reverse else .unreadable) stack

def named? : List (Option Text × Value) → Option (List (Text × Value))
  | [] => some []
  | (name, value) :: rest => do return (← name, value) :: (← named? rest)

def closeObject (members : List (Option Text × Value)) (stack : List Frame) : State :=
  match named? members.reverse with
  | some members =>
    .filled (if stack.length < depthLimit then .object members else .unreadable) stack
  | none => .filled .unreadable stack

def start (stack : List Frame) : Token → Option State
  | .openList => some (.firstItem stack)
  | .openObject => some (.firstName stack)
  | .string (some s) => some (.filled (.string s) stack)
  | .string none => some (.filled .unreadable stack)
  | .scalar v => some (.filled v stack)
  | _ => none

def step : State → Token → Option State
  | .value stack, token => start stack token
  | .firstItem stack, .closeList => some (closeList [] stack)
  | .firstItem stack, token => start (.list [] :: stack) token
  | .firstName stack, .closeObject => some (closeObject [] stack)
  | .firstName stack, .string s => some (.colon [] s stack)
  | .firstName _, _ => none
  | .name members stack, .string s => some (.colon members s stack)
  | .name _ _, _ => none
  | .colon members name stack, .colon => some (.value (.object members name :: stack))
  | .colon _ _ _, _ => none
  | .filled v (.list items :: stack), .comma => some (.value (.list (v :: items) :: stack))
  | .filled v (.list items :: stack), .closeList => some (closeList (v :: items) stack)
  | .filled v (.object members name :: stack), .comma => some (.name ((name, v) :: members) stack)
  | .filled v (.object members name :: stack), .closeObject =>
    some (closeObject ((name, v) :: members) stack)
  | .filled _ _, _ => none

def read? (text : Text) : Option Value := do
  match ← (← tokens? text).foldlM step (.value []) with
  | .filled value [] => return value
  | _ => none

end Stencil.Json
