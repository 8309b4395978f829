import Mathlib.Computability.StateTransition
import Stencil.Proofs.Rendering.Run

/-! # The course of a call, step by step

At each moment of its course a call has one request to make, in a world. A step answers the
request and leads to the next moment. There is no step from where the call is over, nor from
where it gives way and does not get control back. Running a call is following its steps, and
on the way a rendering that is cancelled stays cancelled.
-/

namespace Stencil

open StateTransition

variable {σ : Type}

/-- A moment in the course of a call: whether the call alone has been cancelled, the request that
comes next, and the world. -/
structure Moment (σ : Type) where
  aside : Bool
  task : Task σ
  world : World σ

/-- Whether the next request is to cancel the rendering. -/
def Task.cancelsRender : Task σ → Bool
  | .cancelRender _ => true
  | _ => false

/-- Whether the next request is to cancel the call alone. -/
def Task.cancelsCall : Task σ → Bool
  | .cancelCall _ => true
  | _ => false

namespace Moment

/-- The next moment, if there is one. -/
def step : Moment σ → Option (Moment σ)
  | ⟨_, .finish _, _⟩ => none
  | ⟨aside, .load next, world⟩ => some ⟨aside, next world.shared, world⟩
  | ⟨aside, .store state next, world⟩ => some ⟨aside, next, { world with shared := state }⟩
  | ⟨aside, .cancelRender next, world⟩ => some ⟨aside, next, { world with cancelled := true }⟩
  | ⟨_, .cancelCall next, world⟩ => some ⟨true, next, world⟩
  | ⟨aside, .isCancelled next, world⟩ =>
    some ⟨aside, next (aside || world.cancelled), world⟩
  | ⟨aside, .pause next, world⟩ => if world.cancelled then none else some ⟨aside, next, world⟩
  | ⟨aside, .awaitCancel next, world⟩ =>
    if aside || world.cancelled then some ⟨aside, next, world⟩ else none

/-- What comes of a call from a moment on. -/
def outcome (moment : Moment σ) : Option (Except Failure Text) × World σ :=
  moment.task.run moment.aside moment.world

theorem outcome_of_step {moment next : Moment σ} (hstep : moment.step = some next) :
    moment.outcome = next.outcome := by
  obtain ⟨aside, task, world⟩ := moment
  cases task with
  | finish result => cases hstep
  | load _ => cases hstep; rfl
  | store _ _ => cases hstep; rfl
  | cancelRender _ => cases hstep; rfl
  | cancelCall _ => cases hstep; rfl
  | isCancelled _ => cases hstep; rfl
  | pause after =>
      rw [outcome, Task.run]
      rw [step] at hstep
      split at hstep
      next => cases hstep
      next hlive => cases hstep; exact if_neg hlive
  | awaitCancel after =>
      rw [outcome, Task.run]
      rw [step] at hstep
      split at hstep
      next hcancelled => cases hstep; exact if_pos hcancelled
      next => cases hstep

/-- A step cancels the rendering or the call only where that is what it is asked for, and does not
undo a cancellation. -/
theorem tokens_of_step {moment next : Moment σ} (hstep : moment.step = some next) :
    next.world.cancelled = (moment.world.cancelled || moment.task.cancelsRender) ∧
      next.aside = (moment.aside || moment.task.cancelsCall) := by
  obtain ⟨aside, task, world⟩ := moment
  cases task with
  | finish result => cases hstep
  | load _ => cases hstep; exact ⟨(Bool.or_false _).symm, (Bool.or_false _).symm⟩
  | store _ _ => cases hstep; exact ⟨(Bool.or_false _).symm, (Bool.or_false _).symm⟩
  | cancelRender _ => cases hstep; exact ⟨(Bool.or_true _).symm, (Bool.or_false _).symm⟩
  | cancelCall _ => cases hstep; exact ⟨(Bool.or_false _).symm, (Bool.or_true _).symm⟩
  | isCancelled _ => cases hstep; exact ⟨(Bool.or_false _).symm, (Bool.or_false _).symm⟩
  | pause after =>
      rw [step] at hstep
      split at hstep
      next => cases hstep
      next => cases hstep; exact ⟨(Bool.or_false _).symm, (Bool.or_false _).symm⟩
  | awaitCancel after =>
      rw [step] at hstep
      split at hstep
      next => cases hstep; exact ⟨(Bool.or_false _).symm, (Bool.or_false _).symm⟩
      next => cases hstep

theorem outcome_of_reaches {moment later : Moment σ} (reaches : Reaches step moment later) :
    moment.outcome = later.outcome := by
  induction reaches with
  | refl => rfl
  | tail _ hstep ih => exact ih.trans (outcome_of_step hstep)

theorem cancelled_of_reaches {moment later : Moment σ} (reaches : Reaches step moment later)
    (hcancelled : moment.world.cancelled = true) : later.world.cancelled = true := by
  induction reaches with
  | refl => exact hcancelled
  | tail _ hstep ih => rw [(tokens_of_step hstep).1, ih, Bool.true_or]

theorem exists_last_of_step {moment next : Moment σ} (hstep : moment.step = some next)
    (hnext : ∃ last, Reaches step next last ∧ last.step = none) :
    ∃ last, Reaches step moment last ∧ last.step = none := by
  obtain ⟨last, reaches, hlast⟩ := hnext
  exact ⟨last, .head hstep reaches, hlast⟩

/-- Every course comes to an end. -/
theorem exists_last (moment : Moment σ) :
    ∃ last, Reaches step moment last ∧ last.step = none := by
  obtain ⟨aside, task, world⟩ := moment
  induction task generalizing aside world with
  | finish result => exact ⟨_, .refl, rfl⟩
  | load next ih => exact exists_last_of_step rfl (ih world.shared aside world)
  | store state next ih =>
      exact exists_last_of_step rfl (ih aside { world with shared := state })
  | cancelRender next ih =>
      exact exists_last_of_step rfl (ih aside { world with cancelled := true })
  | cancelCall next ih => exact exists_last_of_step rfl (ih true world)
  | isCancelled next ih =>
      exact exists_last_of_step rfl (ih (aside || world.cancelled) aside world)
  | pause next ih =>
      -- control does not come back to a call that gives way in a cancelled rendering
      by_cases hcancelled : world.cancelled = true
      · exact ⟨_, .refl, if_pos hcancelled⟩
      · exact exists_last_of_step (if_neg hcancelled) (ih aside world)
  | awaitCancel next ih =>
      by_cases hcancelled : (aside || world.cancelled) = true
      · exact exists_last_of_step (if_pos hcancelled) (ih aside world)
      · exact ⟨_, .refl, if_neg hcancelled⟩

/-- Where a course ends in a rendering that is cancelled, the call is over or gives way. -/
theorem finish_or_pause {last : Moment σ} (hlast : last.step = none)
    (hcancelled : last.world.cancelled = true) :
    (∃ result, last.task = .finish result) ∨ ∃ after, last.task = .pause after := by
  obtain ⟨aside, task, world⟩ := last
  cases task with
  | finish result => exact .inl ⟨result, rfl⟩
  | pause after => exact .inr ⟨after, rfl⟩
  | awaitCancel after =>
      have hwaits : (aside || world.cancelled) = true := by
        rw [show world.cancelled = true from hcancelled, Bool.or_true]
      rw [step, if_pos hwaits] at hlast
      cases hlast
  | load _ => cases hlast
  | store _ _ => cases hlast
  | cancelRender _ => cases hlast
  | cancelCall _ => cases hlast
  | isCancelled _ => cases hlast

theorem outcome_of_finish {moment : Moment σ} {result : Except Failure Text}
    (htask : moment.task = .finish result) : moment.outcome = (some result, moment.world) := by
  rw [outcome, htask, Task.run]

theorem outcome_of_pause {moment : Moment σ} {after : Task σ}
    (htask : moment.task = .pause after) (hcancelled : moment.world.cancelled = true) :
    moment.outcome = (none, moment.world) := by
  rw [outcome, htask, Task.run, if_pos hcancelled]

/-- What comes of a call in a rendering that is cancelled leaves it cancelled. -/
theorem cancelled_outcome {moment : Moment σ} (hcancelled : moment.world.cancelled = true) :
    moment.outcome.2.cancelled = true := by
  obtain ⟨last, reaches, hlast⟩ := exists_last moment
  have hkept := cancelled_of_reaches reaches hcancelled
  rw [outcome_of_reaches reaches]
  rcases finish_or_pause hlast hkept with ⟨result, htask⟩ | ⟨after, htask⟩
  · rw [outcome_of_finish htask]
    exact hkept
  · rw [outcome_of_pause htask hkept]
    exact hkept

theorem cancelsRender_of_last {last : Moment σ} (hlast : last.step = none) :
    last.task.cancelsRender = false := by
  obtain ⟨aside, task, world⟩ := last
  cases task with
  | cancelRender next => cases hlast
  | _ => rfl

/-- What is reached from where a call cancels the rendering, and makes another request there, is
in a rendering that is cancelled. -/
theorem cancelled_of_cancelRender {moment later : Moment σ} {next : Task σ}
    (htask : moment.task = .cancelRender next) (reaches : Reaches step moment later)
    (hother : later.task.cancelsRender = false) : later.world.cancelled = true := by
  rcases Relation.ReflTransGen.cases_head reaches with rfl | ⟨second, hstep, hrest⟩
  · rw [htask] at hother
    cases hother
  · apply cancelled_of_reaches hrest
    rw [(tokens_of_step hstep).1, htask, Task.cancelsRender, Bool.or_true]

end Moment

/-- The moment at which the function of a call is started. -/
def Call.entered (call : Call) (config : Config) (root : Variables) (found : Match σ)
    (world : World σ) : Moment σ where
  aside := false
  task := found.function.invoke ⟨call.arguments root, config⟩
  world := call.announced root found world

theorem Call.course_of_reaches {call : Call} {config : Config} {root : Variables}
    {found : Match σ} {world : World σ} {moment : Moment σ}
    (reaches : Reaches Moment.step (call.entered config root found world) moment) :
    call.course config root found world = moment.outcome :=
  Moment.outcome_of_reaches reaches

end Stencil
