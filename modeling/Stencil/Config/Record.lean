import Stencil.Config.Basic

/-! # Configurations as values

A configuration is written as an object, each parameter as an object within it.
Members may stand in any order and may be left out when they hold the default;
members of other names are passed over, whatever they hold. A known member that
is repeated, or that holds a value of the wrong kind, spoils the record. In
place of an object a list of the members' values in their order is read too; in
some formats it may go on, and what follows is not looked at.
-/

namespace Stencil

/-- The formats a configuration can be written in. -/
inductive Format where
  | json
  | toml
deriving DecidableEq

/-- Whether a record given as a list may have more items than the record has members. -/
def Format.allowsSurplus : Format → Bool
  | json => false
  | toml => true

/-- Whether a value can be passed over where nobody asks for it. -/
def Format.passesOver : Format → Value → Bool
  | json, _ => true
  | toml, value => value.isSound

namespace Value

/-- The members of an object that have known names, if none is repeated and all others can be passed
over. -/
def knownMembers? (format : Format) (names : List Text) :
    List (Text × Value) → Option (List (Text × Value))
  | [] => some []
  | (name, value) :: rest => do
    let known ← knownMembers? format names rest
    if names.contains name then
      if known.any (·.1 == name) then none else return (name, value) :: known
    else if format.passesOver value then return known
    else none

/-- The members of a record, given as an object or as a list. -/
def record? (format : Format) (names : List Text) : Value → Option (List (Text × Value))
  | .object members => knownMembers? format names members
  | .list items =>
    if items.length ≤ names.length || format.allowsSurplus then some (names.zip items) else none
  | _ => none

/-- A member of a record read by `read`, or its default when it is left out. -/
def member? {α : Type} (members : List (Text × Value)) (name : Text) (default : α)
    (read : Value → Option α) : Option α :=
  match members.find? fun member => member.1 == name with
  | some (_, value) => read value
  | none => some default

def text? : Value → Option Text
  | .string s => some s
  | _ => none

def optionalText? : Value → Option (Option Text)
  | .null => some none
  | .string s => some (some s)
  | _ => none

def bool? : Value → Option Bool
  | .bool b => some b
  | _ => none

def word? : Value → Option UInt32
  | .integer (.ofNat n) => if n < UInt32.size then some (UInt32.ofNat n) else none
  | _ => none

def list? {α : Type} (read : Value → Option α) : Value → Option (List α)
  | .list items => items.mapM read
  | _ => none

def settings? : Value → Option Settings
  | .object members => Settings.ofMembers? members
  | _ => none

end Value

namespace Parameter

def memberNames : List Text := ["name".toList, "description".toList, "default".toList]

def ofValue? (format : Format) (value : Value) : Option Parameter := do
  let members ← value.record? format memberNames
  return {
    name := ← Value.member? members "name".toList [] Value.text?
    description := ← Value.member? members "description".toList [] Value.text?
    default := ← Value.member? members "default".toList none Value.optionalText? }

/-- Writes a parameter; a default that is not set is left out. -/
def toValue (parameter : Parameter) : Value :=
  .object ([("name".toList, .string parameter.name),
    ("description".toList, .string parameter.description)] ++
    (parameter.default.toList.map fun text => ("default".toList, .string text)))

end Parameter

namespace Config

def memberNames : List Text :=
  ["schema".toList, "description".toList, "input_variables".toList,
    "execution_settings".toList, "allow_unsafe_content".toList, "inline_variables".toList]

def ofValue? (format : Format) (value : Value) : Option Config := do
  let members ← value.record? format memberNames
  return {
    schema := ← Value.member? members "schema".toList standard.schema Value.word?
    description :=
      ← Value.member? members "description".toList standard.description Value.text?
    parameters :=
      ← Value.member? members "input_variables".toList standard.parameters
        (Value.list? (Parameter.ofValue? format))
    settings :=
      ← Value.member? members "execution_settings".toList standard.settings Value.settings?
    allowUnsafe :=
      ← Value.member? members "allow_unsafe_content".toList standard.allowUnsafe Value.bool?
    inlineVariables :=
      ← Value.member? members "inline_variables".toList standard.inlineVariables Value.bool? }

def toValue (config : Config) : Value :=
  .object [
    ("schema".toList, .integer config.schema.toNat),
    ("description".toList, .string config.description),
    ("input_variables".toList, .list (config.parameters.map Parameter.toValue)),
    ("execution_settings".toList, .object config.settings.members),
    ("allow_unsafe_content".toList, .bool config.allowUnsafe),
    ("inline_variables".toList, .bool config.inlineVariables)]

end Config

end Stencil
