import Stencil.Name
import Stencil.Settings

/-! # Configuration of a template

A template may come with a description of the variables it expects, with
settings for the functions it calls, and with a switch that says whether `$name`
outside blocks is a variable.
-/

namespace Stencil

/-- A variable that a template expects its caller to set. -/
structure Parameter where
  name : Text
  description : Text
  /-- The value of the variable when the caller does not set it. -/
  default : Option Text

def Parameter.named (name : Text) : Parameter := ⟨name, [], none⟩

/-- The configuration of a template. -/
structure Config where
  schema : UInt32
  description : Text
  parameters : List Parameter
  settings : Settings
  allowUnsafe : Bool
  inlineVariables : Bool

namespace Config

/-- The configuration of a template that comes with none. -/
def standard : Config := ⟨1, [], [], .empty, false, true⟩

def parameter? (config : Config) (name : Text) : Option Parameter :=
  config.parameters.find? fun parameter => parameter.name.sameName name

end Config

end Stencil
