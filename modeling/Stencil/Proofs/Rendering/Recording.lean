import Stencil.Template.Basic

/-! # Recording which functions are started

A lookup can be made to record: each function that it finds then notes itself and what
it is called with in a list beside the state that functions share, and goes on as before.
A rendering that uses such a lookup tells which functions it started and in which order.
Recording is passive: it changes neither the result of a call nor anything else in the
world.
-/

namespace Stencil

variable {σ : Type}

/-- A call of a function that was started. -/
structure Start (σ : Type) where
  function : Function σ
  context : Context

/-- The same course of a call beside a record, which it neither reads nor writes. -/
def Task.recorded : Task σ → Task (σ × List (Start σ))
  | .finish result => .finish result
  | .load next => .load fun shared => (next shared.1).recorded
  | .store state next => .load fun shared => .store (state, shared.2) next.recorded
  | .cancelRender next => .cancelRender next.recorded
  | .cancelCall next => .cancelCall next.recorded
  | .isCancelled next => .isCancelled fun cancelled => (next cancelled).recorded
  | .pause next => .pause next.recorded
  | .awaitCancel next => .awaitCancel next.recorded

/-- A function that first notes that it was started. -/
def Function.recorded (function : Function σ) : Function (σ × List (Start σ)) where
  name := function.name
  description := function.description
  invoke context :=
    .load fun shared =>
      .store (shared.1, shared.2 ++ [⟨function, context⟩]) (function.invoke context).recorded

/-- A match with its function recorded. -/
def Match.recorded (found : Match σ) : Match (σ × List (Start σ)) :=
  ⟨found.owner, found.function.recorded, found.others⟩

/-- The same lookup with every function recorded. -/
def Lookup.recorded (lookup : Lookup σ) : Lookup (σ × List (Start σ)) := fun plugin name =>
  (lookup plugin name).map Match.recorded

/-- A world beside a record. -/
def World.recorded (world : World σ) (record : List (Start σ)) : World (σ × List (Start σ)) where
  shared := (world.shared, record)
  cancelled := world.cancelled
  log := world.log

/-- The functions that rendering blocks starts, in order. -/
def Config.started (config : Config) (lookup : Lookup σ) (vars : Variables) (blocks : List Block)
    (world : World σ) : List (Start σ) :=
  (config.render lookup.recorded vars blocks (world.recorded [])).2.shared.2

/-- The functions that rendering a template starts, in order. -/
def Template.started (template : Template) (lookup : Lookup σ) (vars : Variables)
    (world : World σ) : List (Start σ) :=
  (template.render lookup.recorded vars (world.recorded [])).2.shared.2

theorem Template.started_eq (template : Template) (lookup : Lookup σ) (vars : Variables)
    (world : World σ) :
    template.started lookup vars world =
      match template.blocks with
      | .error _ => []
      | .ok blocks => template.config.started lookup vars blocks world := by
  unfold started render
  cases template.blocks <;> rfl

theorem Template.render_eq (template : Template) (lookup : Lookup σ) (vars : Variables)
    (world : World σ) :
    template.render lookup vars world =
      match template.blocks with
      | .error refusal => (.error (.refused refusal), world)
      | .ok blocks =>
        ((template.config.render lookup vars blocks world).1.mapError .render,
          (template.config.render lookup vars blocks world).2) := by
  unfold render
  cases template.blocks <;> rfl

/-- A call runs beside a record as it does without one, and leaves the record alone. -/
theorem Task.run_recorded (aside : Bool) (task : Task σ) (world : World σ)
    (record : List (Start σ)) :
    task.recorded.run aside (world.recorded record) =
      ((task.run aside world).1, (task.run aside world).2.recorded record) := by
  induction task generalizing aside world with
  | finish result => rfl
  | load next ih => exact ih world.shared aside world
  | store state next ih => exact ih aside { world with shared := state }
  | cancelRender next ih => exact ih aside { world with cancelled := true }
  | cancelCall next ih => exact ih true world
  | isCancelled next ih => exact ih (aside || world.cancelled) aside world
  | pause next ih =>
      simp only [recorded, run, World.recorded]
      split
      next => rfl
      next => exact ih aside world
  | awaitCancel next ih =>
      simp only [recorded, run, World.recorded]
      split
      next => exact ih aside world
      next => rfl

/-- A recorded function notes its start and does what the function does. -/
theorem Function.run_recorded (function : Function σ) (context : Context) (world : World σ)
    (record : List (Start σ)) :
    (function.recorded.invoke context).run false (world.recorded record) =
      (((function.invoke context).run false world).1,
        ((function.invoke context).run false world).2.recorded
          (record ++ [⟨function, context⟩])) := by
  rw [← Task.run_recorded]
  rfl

end Stencil
