import Stencil.Function.Basic

/-! # Plugins

A plugin is a named list of functions, and a registry an ordered list of
plugins. Names are compared up to the case of ASCII letters. A function added
under a name that is taken replaces the earlier one in its place.
-/

namespace Stencil

variable {σ : Type}

/-- A function that was found, the plugin that owns it, and the later plugins that have one of that
name too. -/
structure Match (σ : Type) where
  owner : Text
  function : Function σ
  others : List Text

/-- A way to find functions, with or without the name of a plugin. -/
abbrev Lookup (σ : Type) : Type := Option Text → Text → Option (Match σ)

/-- The plugin that is asked for: an empty name asks for none. -/
def wantedPlugin : Option Text → Option Text
  | some [] => none
  | plugin => plugin

/-- A named list of functions. -/
structure Plugin (σ : Type) where
  name : Text
  description : Text
  functions : List (Function σ)

namespace Plugin

def named (name : Text) (description : Text) : Plugin σ := ⟨name, description, []⟩

/-- A list of functions with one more, which takes the place of one of the same name. -/
def insert (function : Function σ) : List (Function σ) → List (Function σ)
  | [] => [function]
  | other :: rest =>
    if other.name.sameName function.name then function :: rest
    else other :: insert function rest

def add (plugin : Plugin σ) (function : Function σ) : Plugin σ :=
  { plugin with functions := insert function plugin.functions }

def get? (plugin : Plugin σ) (name : Text) : Option (Function σ) :=
  plugin.functions.find? fun function => function.name.sameName name

def lookup (plugin : Plugin σ) : Lookup σ := fun wanted name =>
  match wantedPlugin wanted with
  | some other =>
    if other.sameName plugin.name then
      (plugin.get? name).map fun function => ⟨plugin.name, function, []⟩
    else none
  | none => (plugin.get? name).map fun function => ⟨plugin.name, function, []⟩

end Plugin

/-- Plugins in the order in which they were registered. -/
structure Registry (σ : Type) where
  plugins : List (Plugin σ)

namespace Registry

def empty : Registry σ := ⟨[]⟩

def add (registry : Registry σ) (plugin : Plugin σ) : Registry σ :=
  ⟨registry.plugins ++ [plugin]⟩

def get? (registry : Registry σ) (name : Text) : Option (Plugin σ) :=
  registry.plugins.find? fun plugin => plugin.name.sameName name

/-- The functions of a name, each with the name of its plugin, in order. -/
def candidates (registry : Registry σ) (name : Text) : List (Text × Function σ) :=
  registry.plugins.filterMap fun plugin =>
    (plugin.get? name).map fun function => (plugin.name, function)

/-- Finds functions in all plugins. A plugin's name leads to the first plugin of that name and to no
other; without one the first plugin that has the function is taken. -/
def lookup (registry : Registry σ) : Lookup σ := fun wanted name =>
  match wantedPlugin wanted with
  | some plugin => do
    let owner ← registry.get? plugin
    let function ← owner.get? name
    return ⟨owner.name, function, []⟩
  | none =>
    match registry.candidates name with
    | [] => none
    | (owner, function) :: others => some ⟨owner, function, others.map Prod.fst⟩

end Registry

end Stencil
