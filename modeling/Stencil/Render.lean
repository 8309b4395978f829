import Stencil.Block.Basic
import Stencil.Event

/-! # Rendering

Blocks are rendered from left to right, and the first failure ends the rendering
with no output. All variables are read from one root state: the caller's, with
the defaults of the template's parameters filled in. A function gets a copy of
the root with its arguments written over it, so no call sees what another did to
its variables. Once the rendering is cancelled no further call is started.
-/

namespace Stencil

variable {σ : Type}

/-- Why a rendering failed. -/
inductive RenderError where
  | functionNotFound (function : FunctionRef)
  | functionFailed (failure : Failure)
  | cancelled

def RenderError.message : RenderError → Text
  | functionNotFound function =>
    "function not found: `".toList ++ function.content ++ "`".toList
  | functionFailed failure => failure.message
  | cancelled => "template rendering was cancelled".toList

/-- What changes in the course of a rendering. -/
structure World (σ : Type) where
  shared : σ
  /-- Whether the rendering has been cancelled; it stays so. -/
  cancelled : Bool
  log : List Event

def World.report (world : World σ) (events : List Event) : World σ :=
  { world with log := world.log ++ events }

/-! ## Running a call -/

/-- Runs a call, `aside` saying whether the call alone has been cancelled. There is no result when
a cancelled rendering regains control before the call is over. A call that waits for a cancellation
which is still to come can only be ended by cancelling the rendering from outside. -/
def Task.run (aside : Bool) : Task σ → World σ → Option (Except Failure Text) × World σ
  | .finish result, world => (some result, world)
  | .load next, world => (next world.shared).run aside world
  | .store state next, world => next.run aside { world with shared := state }
  | .cancelRender next, world => next.run aside { world with cancelled := true }
  | .cancelCall next, world => next.run true world
  | .isCancelled next, world => (next (aside || world.cancelled)).run aside world
  -- a cancellation of the call alone does not take control from it
  | .pause next, world => if world.cancelled then (none, world) else next.run aside world
  | .awaitCancel next, world =>
    if aside || world.cancelled then next.run aside world
    else (none, { world with cancelled := true })

/-! ## Arguments -/

/-- The text an argument stands for; a variable that is not set stands for the empty text. -/
def Operand.resolve (root : Variables) : Operand → Text
  | .literal l => l.value
  | .var name => (root.get? name).getD []

def Operand.events (root : Variables) : Operand → List Event
  | .literal _ => []
  | .var name => Event.ofRead root name

namespace Call

/-- The variables a function is called with: the root with the arguments written over it, the
unnamed one as the main input and then the named ones in order. -/
def arguments (call : Call) (root : Variables) : Variables :=
  let start :=
    match call.input with
    | some operand => root.setInput (operand.resolve root)
    | none => root
  call.named.foldl (fun result binding => result.set binding.name (binding.value.resolve root))
    start

def render (config : Config) (lookup : Lookup σ) (root : Variables) (call : Call)
    (world : World σ) : Except RenderError Text × World σ :=
  if world.cancelled then (.error .cancelled, world)
  else
    match lookup call.function.plugin call.function.function with
    | none => (.error (.functionNotFound call.function), world)
    | some found =>
      let vars := call.arguments root
      let world := world.report (Event.ofMatch call.function.function found ++
        call.operands.flatMap (Operand.events root) ++ [.invoked call.function vars])
      match (found.function.invoke ⟨vars, config⟩).run false world with
      | (none, world) => (.error .cancelled, world.report [.interrupted call.function])
      | (some (.ok text), world) => (.ok text, world)
      | (some (.error failure), world) =>
        (.error (.functionFailed failure), world.report [.failed call.function failure])

end Call

/-! ## Blocks -/

namespace Block

def text? (root : Variables) : Block → Option Text
  | .text t => some t
  | .var name => some ((Operand.var name).resolve root)
  | .literal l => some l.value
  | .binding b => some (b.value.resolve root)
  | .function ref => some ref.content
  | .call _ _ => none

def events (root : Variables) : Block → List Event
  | .var name => Event.ofRead root name
  | .binding b => b.value.events root
  | _ => []

def render (config : Config) (lookup : Lookup σ) (root : Variables) (block : Block)
    (world : World σ) : Except RenderError Text × World σ :=
  match block with
  | .call _ c => c.render config lookup root world
  | block => (.ok ((block.text? root).getD []), world.report (block.events root))

/-- Renders blocks one after another, up to the first failure. -/
def renderAll (config : Config) (lookup : Lookup σ) (root : Variables) :
    List Block → World σ → Except RenderError Text × World σ
  | [], world => (.ok [], world)
  | block :: rest, world =>
    match block.render config lookup root world with
    | (.error error, world) => (.error error, world)
    | (.ok first, world) =>
      match renderAll config lookup root rest world with
      | (.error error, world) => (.error error, world)
      | (.ok last, world) => (.ok (first ++ last), world)

/-- A block with its variable replaced by the text it stands for. -/
def substitute (vars : Variables) : Block → Block
  | .var name => .text ((Operand.var name).resolve vars)
  | block => block

def substitutionEvents (vars : Variables) : Block → List Event
  | .var name => Event.ofRead vars name
  | _ => []

/-- The blocks with their variables replaced by texts, and what is reported of these variables. -/
def substituteAll (vars : Variables) (blocks : List Block) : List Block × List Event :=
  (blocks.map (substitute vars), blocks.flatMap (substitutionEvents vars))

end Block

namespace Config

/-- The caller's variables with the defaults of parameters that are not set, in declared order. -/
def seed (config : Config) (vars : Variables) : Variables :=
  config.parameters.foldl (fun root parameter =>
    match parameter.default with
    | some value => if root.contains parameter.name then root else root.set parameter.name value
    | none => root) vars

def render (config : Config) (lookup : Lookup σ) (vars : Variables) (blocks : List Block)
    (world : World σ) : Except RenderError Text × World σ :=
  Block.renderAll config lookup (config.seed vars) blocks world

end Config

end Stencil
