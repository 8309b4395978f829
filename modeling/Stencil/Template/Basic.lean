import Stencil.Config.Basic
import Stencil.Render
import Stencil.Template.Reader

/-! # Templates

A template is a text with its configuration. It can be cut into blocks, asked
which variables it reads, and rendered. Nothing is rendered unless the whole
text can be read.
-/

namespace Stencil

variable {σ : Type}

/-- A template: its text and its configuration. -/
structure Template where
  source : Text
  config : Config

/-- Why a template could not be rendered. -/
inductive Template.Error where
  | refused (refusal : Refusal)
  | render (error : RenderError)

/-- Parameters with one more of a name, unless there is one of that name already. -/
def Parameter.mention (parameters : List Parameter) (name : Text) : List Parameter :=
  if parameters.any fun parameter => parameter.name.sameName name then parameters
  else parameters ++ [.named name]

namespace Template

def blocks (template : Template) : Except Refusal (List Block) :=
  Template.read template.config.inlineVariables template.source

/-- The declared parameters, and after them the other variables that the template reads, each once
and as it is first spelt. -/
def parameters (template : Template) : Except Refusal (List Parameter) := do
  let blocks ← template.blocks
  return (blocks.flatMap Block.reads).foldl Parameter.mention template.config.parameters

def render (template : Template) (lookup : Lookup σ) (vars : Variables) (world : World σ) :
    Except Template.Error Text × World σ :=
  match template.blocks with
  | .error error => (.error (.refused error), world)
  | .ok blocks =>
    let (result, world) := template.config.render lookup vars blocks world
    (result.mapError .render, world)

end Template

end Stencil
