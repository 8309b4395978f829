import Stencil.Proofs.List
import Stencil.Proofs.Rendering.Course

/-! # Cancellation

A rendering that is cancelled starts no further function, whatever cancelled it: the caller
before it or between two renderings, or a function that was running. The points of a run are
between its blocks, at every moment of its calls, and at its end; those of a session, in which
renderings share one world, are the points of its renderings. At each of them it is known which
functions have been started so far.
-/

namespace Stencil

open StateTransition

variable {σ : Type}

/-! ## The points of a run -/

section

variable (config : Config) (lookup : Lookup σ) (root : Variables)

/-- A run that has come to a call: the text so far, the functions that have been started, that of
the call being the last, and the moment at which the call is. -/
inductive Block.Calling (world : World σ) (done : List Block) (call : Call) :
    Text → List (Start σ) → Moment σ → Prop where
  | intro {middle : World σ} {found : Match σ} {outputs : List Text} {starts : List (Start σ)}
      {moment : Moment σ}
      (run : Block.Completes config lookup root world done outputs starts middle)
      (hlive : middle.cancelled = false)
      (hfound : lookup call.function.plugin call.function.function = some found)
      (reaches : Reaches Moment.step (call.entered config root found middle) moment) :
      Calling world done call outputs.flatten (starts ++ [call.start config root found]) moment

/-- A run that comes to a point, with the functions that have been started until then. -/
inductive Block.Visits (world : World σ) : List Block → List (Start σ) → World σ → Prop where
  | between {point : World σ} {done : List Block} {outputs : List Text}
      {starts : List (Start σ)}
      (run : Block.Completes config lookup root world done outputs starts point)
      (rest : List Block) : Visits world (done ++ rest) starts point
  | within {done : List Block} {call : Call} {text : Text} {starts : List (Start σ)}
      {moment : Moment σ}
      (calling : Block.Calling config lookup root world done call text starts moment)
      (content : Text) (rest : List Block) :
      Visits world (done ++ .call content call :: rest) starts moment.world
  | ended {point : World σ} {blocks : List Block} {result : Except RenderError Text}
      {starts : List (Start σ)}
      (ends : Block.Ends config lookup root world blocks result starts point) :
      Visits world blocks starts point

end

/-! ## Runs of a rendering that is cancelled -/

/-- Whether a block is a call. -/
def Block.isCall (block : Block) : Bool := block.call?.isSome

/-- The text that blocks without a call come to. -/
def Block.plainText (root : Variables) (blocks : List Block) : Text :=
  blocks.flatMap fun block => (block.text? root).getD []

/-- What is left of a run once the rendering is cancelled. -/
def Block.cancelledResult (root : Variables) (blocks : List Block) : Except RenderError Text :=
  if blocks.any isCall then .error .cancelled else .ok (plainText root blocks)

section

variable {config : Config} {lookup : Lookup σ} {root : Variables}

/-- In a rendering that is cancelled a call is refused and any other block succeeds. -/
theorem Block.renders_of_cancelled (config : Config) (lookup : Lookup σ) (root : Variables)
    (block : Block) {world : World σ} (hcancelled : world.cancelled = true) :
    (block.isCall = true ∧
        Block.Renders config lookup root world block (.error .cancelled) [] world) ∨
      (block.isCall = false ∧ ∃ next, next.cancelled = true ∧
        Block.Renders config lookup root world block (.ok ((block.text? root).getD [])) []
          next) := by
  cases block with
  | text content => exact .inr ⟨rfl, world, hcancelled, .text world content⟩
  | var name =>
      exact .inr ⟨rfl, world.report (Event.ofRead root name), hcancelled, .var world name⟩
  | literal literal => exact .inr ⟨rfl, world, hcancelled, .literal world literal⟩
  | binding binding =>
      exact .inr ⟨rfl, world.report (binding.value.events root), hcancelled,
        .binding world binding⟩
  | function ref => exact .inr ⟨rfl, world, hcancelled, .function world ref⟩
  | call content call => exact .inl ⟨rfl, .cancelled hcancelled⟩

/-- A run in a rendering that is cancelled goes on up to the first call, and starts nothing. -/
theorem Block.exists_ends_of_cancelled (config : Config) (lookup : Lookup σ) (root : Variables)
    (blocks : List Block) {world : World σ} (hcancelled : world.cancelled = true) :
    ∃ next, Block.Ends config lookup root world blocks (cancelledResult root blocks) [] next ∧
      next.cancelled = true := by
  induction blocks generalizing world with
  | nil => exact ⟨world, .completed (.nil world), hcancelled⟩
  | cons block rest ih =>
      rw [cancelledResult, List.any_cons]
      rcases block.renders_of_cancelled config lookup root hcancelled with
        ⟨hcall, refused⟩ | ⟨hcall, middle, hmiddle, renders⟩
      · rw [hcall]
        exact ⟨world, .stopped (.nil world) refused, hcancelled⟩
      · -- the block left the rendering cancelled, so the rest is a run of the same kind
        obtain ⟨next, ends, hnext⟩ := ih hmiddle
        have hends := Ends.cons renders ends
        rw [cancelledResult] at hends
        rw [hcall, Bool.false_or]
        refine ⟨next, ?_, hnext⟩
        split at hends
        next hany => rw [if_pos hany]; exact hends
        next hany => rw [if_neg hany]; exact hends

/-- How a run ends whose call comes to its outcome with the rendering cancelled. -/
def Block.resultAfter (root : Variables) (text : Text) (rest : List Block) :
    Option (Except Failure Text) → Except RenderError Text
  | none => .error .cancelled
  | some (.error failure) => .error (.functionFailed failure)
  | some (.ok output) => (cancelledResult root rest).map fun last => text ++ (output ++ last)

theorem Block.Calling.exists_ends {world : World σ} {done : List Block} {call : Call}
    {text : Text} {starts : List (Start σ)} {moment : Moment σ}
    (calling : Block.Calling config lookup root world done call text starts moment)
    (hcancelled : moment.outcome.2.cancelled = true) (content : Text) (rest : List Block) :
    ∃ next, Block.Ends config lookup root world (done ++ .call content call :: rest)
      (resultAfter root text rest moment.outcome.1) starts next ∧ next.cancelled = true := by
  obtain ⟨run, hlive, hfound, reaches⟩ := calling
  -- from here on the call comes to what its moment comes to
  have hcourse := Call.course_of_reaches reaches
  rcases houtcome : moment.outcome with ⟨_ | failure | output, next⟩
  all_goals rw [houtcome] at hcourse hcancelled
  · exact ⟨_, .stopped run (.interrupted hlive hfound hcourse), hcancelled⟩
  · exact ⟨_, .stopped run (.failed hlive hfound hcourse), hcancelled⟩
  · obtain ⟨last, ends, hlast⟩ :=
      Block.exists_ends_of_cancelled config lookup root rest hcancelled
    have hcall : Block.Ends config lookup root _ (.call content call :: rest) _ _ last :=
      .cons (.returned hlive hfound hcourse) ends
    refine ⟨last, ?_, hlast⟩
    have hends := run.append hcall
    rw [resultAfter]
    cases hresult : cancelledResult root rest <;> rw [hresult] at hends <;> exact hends

/-- A run that comes to a point at which the rendering is cancelled starts nothing more. -/
theorem Block.Visits.exists_ends {world point : World σ} {blocks : List Block}
    {starts : List (Start σ)}
    (visits : Block.Visits config lookup root world blocks starts point)
    (hcancelled : point.cancelled = true) :
    ∃ result next, Block.Ends config lookup root world blocks result starts next ∧
      next.cancelled = true := by
  cases visits with
  | between run rest =>
      obtain ⟨next, ends, hnext⟩ :=
        Block.exists_ends_of_cancelled config lookup root rest hcancelled
      have hends := run.append ends
      rw [List.append_nil] at hends
      exact ⟨_, next, hends, hnext⟩
  | within calling content rest =>
      obtain ⟨next, ends, hnext⟩ :=
        calling.exists_ends (Moment.cancelled_outcome hcancelled) content rest
      exact ⟨_, next, ends, hnext⟩
  | ended ends => exact ⟨_, point, ends, hcancelled⟩

/-! ## Where functions are started -/

theorem Block.Visits.cons {world middle point : World σ} {block : Block} {rest : List Block}
    {output : Text} {first starts : List (Start σ)}
    (head : Block.Renders config lookup root world block (.ok output) first middle)
    (visits : Block.Visits config lookup root middle rest starts point) :
    Block.Visits config lookup root world (block :: rest) (first ++ starts) point := by
  cases visits with
  | between run rest => exact .between (.cons head run) rest
  | within calling content rest =>
      obtain ⟨run, hlive, hfound, reaches⟩ := calling
      rw [← List.append_assoc]
      exact .within (.intro (.cons head run) hlive hfound reaches) content rest
  | ended ends => exact .ended (.cons head ends)

/-- A block starts a function only in a rendering that is not cancelled. -/
theorem Block.Renders.live_of_starts {world next : World σ} {block : Block}
    {result : Except RenderError Text} {starts : List (Start σ)}
    (renders : Block.Renders config lookup root world block result starts next) {k : Nat}
    (hk : k < starts.length) : k = 0 ∧ world.cancelled = false := by
  cases renders with
  | returned hlive _ _ => exact ⟨Nat.lt_one_iff.mp hk, hlive⟩
  | failed hlive _ _ => exact ⟨Nat.lt_one_iff.mp hk, hlive⟩
  | interrupted hlive _ _ => exact ⟨Nat.lt_one_iff.mp hk, hlive⟩
  | _ => cases hk

theorem Block.Completes.exists_visits {world next : World σ} {done : List Block}
    {outputs : List Text} {starts : List (Start σ)}
    (run : Block.Completes config lookup root world done outputs starts next)
    (rest : List Block) {k : Nat} (hk : k < starts.length) :
    ∃ point, Block.Visits config lookup root world (done ++ rest) (starts.take k) point ∧
      point.cancelled = false := by
  induction run generalizing k with
  | nil world => cases hk
  | @cons world _ _ _ _ _ _ first more head _ ih =>
      rcases List.take_append_cases first more hk with ⟨hfirst, htake⟩ | ⟨hmore, htake⟩
      · obtain ⟨rfl, hlive⟩ := head.live_of_starts hfirst
        exact ⟨world, .between (.nil world) _, hlive⟩
      · obtain ⟨point, visits, hlive⟩ := ih hmore
        rw [htake]
        exact ⟨point, .cons head visits, hlive⟩

/-- Just before a run starts a function, the rendering is not cancelled. -/
theorem Block.Ends.exists_visits {world next : World σ} {blocks : List Block}
    {result : Except RenderError Text} {starts : List (Start σ)}
    (ends : Block.Ends config lookup root world blocks result starts next) {k : Nat}
    (hk : k < starts.length) :
    ∃ point, Block.Visits config lookup root world blocks (starts.take k) point ∧
      point.cancelled = false := by
  cases ends with
  | completed run =>
      obtain ⟨point, visits, hlive⟩ := run.exists_visits [] hk
      rw [List.append_nil] at visits
      exact ⟨point, visits, hlive⟩
  | @stopped middle _ _ rest block _ _ starts last run failure =>
      rcases List.take_append_cases starts last hk with ⟨hdone, htake⟩ | ⟨hlast, htake⟩
      · rw [htake]
        exact run.exists_visits (block :: rest) hdone
      · obtain ⟨hzero, hlive⟩ := failure.live_of_starts hlast
        rw [htake, hzero, List.take_zero, List.append_nil]
        exact ⟨middle, .between run (block :: rest), hlive⟩

end

/-! ## Sessions -/

/-- What is done to a world in a session: its rendering is cancelled, or something is rendered. -/
inductive Session.Step (σ : Type) where
  | cancel
  | render (template : Template) (lookup : Lookup σ) (vars : Variables)
  | renderBlocks (config : Config) (lookup : Lookup σ) (vars : Variables) (blocks : List Block)

namespace Session

/-- The world after a step. -/
def Step.after : Step σ → World σ → World σ
  | .cancel, world => { world with cancelled := true }
  | .render template lookup vars, world => (template.render lookup vars world).2
  | .renderBlocks config lookup vars blocks, world => (config.render lookup vars blocks world).2

/-- The functions that a step starts. -/
def Step.started : Step σ → World σ → List (Start σ)
  | .cancel, _ => []
  | .render template lookup vars, world => template.started lookup vars world
  | .renderBlocks config lookup vars blocks, world => config.started lookup vars blocks world

/-- The world after steps one after another. -/
def after : List (Step σ) → World σ → World σ
  | [], world => world
  | step :: rest, world => after rest (step.after world)

/-- The functions that steps start one after another. -/
def started : List (Step σ) → World σ → List (Start σ)
  | [], _ => []
  | step :: rest, world => step.started world ++ started rest (step.after world)

/-- A step that comes to a point, with the functions that it has started until then. -/
inductive Step.Visits (world : World σ) : Step σ → List (Start σ) → World σ → Prop where
  | render {template : Template} {lookup : Lookup σ} {vars : Variables} {blocks : List Block}
      {starts : List (Start σ)} {point : World σ} (hblocks : template.blocks = .ok blocks)
      (visits : Block.Visits template.config lookup (template.config.seed vars) world blocks
        starts point) : Visits world (.render template lookup vars) starts point
  | renderBlocks {config : Config} {lookup : Lookup σ} {vars : Variables} {blocks : List Block}
      {starts : List (Start σ)} {point : World σ}
      (visits : Block.Visits config lookup (config.seed vars) world blocks starts point) :
      Visits world (.renderBlocks config lookup vars blocks) starts point

/-- A session that comes to a point, between its steps or within one of them. -/
inductive Visits : World σ → List (Step σ) → List (Start σ) → World σ → Prop where
  | now (world : World σ) (steps : List (Step σ)) : Visits world steps [] world
  | inside {world point : World σ} {step : Step σ} {starts : List (Start σ)}
      (visits : step.Visits world starts point) (rest : List (Step σ)) :
      Visits world (step :: rest) starts point
  | later {world point : World σ} {step : Step σ} {rest : List (Step σ)}
      {starts : List (Start σ)} (visits : Visits (step.after world) rest starts point) :
      Visits world (step :: rest) (step.started world ++ starts) point

/-! ### One step -/

theorem Step.after_render {template : Template} {blocks : List Block}
    (hblocks : template.blocks = .ok blocks) (lookup : Lookup σ) (vars : Variables)
    (world : World σ) :
    (render template lookup vars).after world =
      (template.config.render lookup vars blocks world).2 := by
  rw [after, Template.render_eq, hblocks]

theorem Step.started_render {template : Template} {blocks : List Block}
    (hblocks : template.blocks = .ok blocks) (lookup : Lookup σ) (vars : Variables)
    (world : World σ) :
    (render template lookup vars).started world =
      template.config.started lookup vars blocks world := by
  rw [started, Template.started_eq, hblocks]

theorem Step.Visits.started {step : Step σ} {world point : World σ} {starts : List (Start σ)}
    (visits : step.Visits world starts point) (hcancelled : point.cancelled = true) :
    step.started world = starts ∧ (step.after world).cancelled = true := by
  cases visits with
  | render hblocks visits =>
      obtain ⟨result, next, ends, hnext⟩ := visits.exists_ends hcancelled
      obtain ⟨hrender, hstarted⟩ := Config.render_iff_ends.mpr ends
      rw [started_render hblocks, after_render hblocks, hrender]
      exact ⟨hstarted, hnext⟩
  | renderBlocks visits =>
      obtain ⟨result, next, ends, hnext⟩ := visits.exists_ends hcancelled
      obtain ⟨hrender, hstarted⟩ := Config.render_iff_ends.mpr ends
      rw [Step.started, after, hrender]
      exact ⟨hstarted, hnext⟩

/-- A step in a rendering that is cancelled starts nothing and leaves it cancelled. -/
theorem Step.of_cancelled (step : Step σ) {world : World σ}
    (hcancelled : world.cancelled = true) :
    step.started world = [] ∧ (step.after world).cancelled = true := by
  cases step with
  | cancel => exact ⟨rfl, rfl⟩
  | render template lookup vars =>
      cases hblocks : template.blocks with
      | error refusal =>
          rw [started, after, Template.started_eq, Template.render_eq, hblocks]
          exact ⟨rfl, hcancelled⟩
      | ok blocks =>
          exact (Visits.render hblocks (.between (.nil world) blocks)).started hcancelled
  | renderBlocks config lookup vars blocks =>
      exact (Visits.renderBlocks (.between (.nil world) blocks)).started hcancelled

theorem Step.exists_visits (step : Step σ) (world : World σ) {k : Nat}
    (hk : k < (step.started world).length) :
    ∃ point, step.Visits world ((step.started world).take k) point ∧
      point.cancelled = false := by
  cases step with
  | cancel => cases hk
  | render template lookup vars =>
      cases hblocks : template.blocks with
      | error refusal =>
          rw [started, Template.started_eq, hblocks] at hk
          cases hk
      | ok blocks =>
          rw [started_render hblocks] at hk ⊢
          obtain ⟨point, visits, hlive⟩ :=
            (Config.render_iff_ends.mp ⟨rfl, rfl⟩).exists_visits hk
          exact ⟨point, .render hblocks visits, hlive⟩
  | renderBlocks config lookup vars blocks =>
      obtain ⟨point, visits, hlive⟩ := (Config.render_iff_ends.mp ⟨rfl, rfl⟩).exists_visits hk
      exact ⟨point, .renderBlocks visits, hlive⟩

/-! ### Steps one after another -/

theorem of_cancelled (steps : List (Step σ)) {world : World σ}
    (hcancelled : world.cancelled = true) :
    started steps world = [] ∧ (after steps world).cancelled = true := by
  induction steps generalizing world with
  | nil => exact ⟨rfl, hcancelled⟩
  | cons step rest ih =>
      obtain ⟨hstarted, hafter⟩ := step.of_cancelled hcancelled
      rw [started, hstarted]
      exact ih hafter

/-- A session that comes to a point at which its rendering is cancelled starts nothing more. -/
theorem Visits.started {world point : World σ} {steps : List (Step σ)}
    {starts : List (Start σ)} (visits : Visits world steps starts point)
    (hcancelled : point.cancelled = true) :
    Session.started steps world = starts ∧ (after steps world).cancelled = true := by
  induction visits with
  | now world steps => exact of_cancelled steps hcancelled
  | inside visits rest =>
      obtain ⟨hstarted, hafter⟩ := visits.started hcancelled
      obtain ⟨hrest, hlast⟩ := of_cancelled rest hafter
      rw [Session.started, hstarted, hrest, List.append_nil]
      exact ⟨rfl, hlast⟩
  | later visits ih =>
      obtain ⟨hrest, hlast⟩ := ih hcancelled
      rw [Session.started, hrest]
      exact ⟨rfl, hlast⟩

/-- Just before a session starts a function, its rendering is not cancelled. -/
theorem exists_visits (steps : List (Step σ)) (world : World σ) {k : Nat}
    (hk : k < (started steps world).length) :
    ∃ point, Visits world steps ((started steps world).take k) point ∧
      point.cancelled = false := by
  induction steps generalizing world k with
  | nil => cases hk
  | cons step rest ih =>
      rw [started] at hk ⊢
      rcases List.take_append_cases _ _ hk with ⟨hfirst, htake⟩ | ⟨hrest, htake⟩
      · obtain ⟨point, visits, hlive⟩ := step.exists_visits world hfirst
        rw [htake]
        exact ⟨point, .inside visits rest, hlive⟩
      · obtain ⟨point, visits, hlive⟩ := ih (step.after world) hrest
        rw [htake]
        exact ⟨point, .later visits, hlive⟩

end Session

/-! ## Cancellation at every point of a session -/

/-- A call that cancels the rendering and then comes to its outcome: how the run ends. -/
theorem Block.Calling.render {config : Config} {lookup : Lookup σ} {vars : Variables}
    {world : World σ} {done : List Block} {call : Call} {text : Text} {starts : List (Start σ)}
    {moment later : Moment σ} {next : Task σ}
    (calling : Block.Calling config lookup (config.seed vars) world done call text starts moment)
    (htask : moment.task = .cancelRender next) (reaches : Reaches Moment.step moment later)
    (hother : later.task.cancelsRender = false) (content : Text) (rest : List Block) :
    (config.render lookup vars (done ++ .call content call :: rest) world).1 =
        Block.resultAfter (config.seed vars) text rest later.outcome.1 ∧
      config.started lookup vars (done ++ .call content call :: rest) world = starts := by
  have hcancelled := Moment.cancelled_of_cancelRender htask reaches hother
  rw [← Moment.outcome_of_reaches reaches]
  obtain ⟨last, ends, -⟩ :=
    calling.exists_ends (Moment.outcome_of_reaches reaches ▸ Moment.cancelled_outcome hcancelled)
      content rest
  obtain ⟨hrender, hstarted⟩ := Config.render_iff_ends.mpr ends
  exact ⟨congrArg Prod.fst hrender, hstarted⟩

/-- Cancellation is never undone, and cancelling a call does not cancel its rendering. At every
point of a session at which the rendering is cancelled, all functions that the session starts have
been started, and every function is started at a point at which it is not cancelled. Blocks that
are rendered in a rendering that is cancelled start nothing: if there is a call among them they are
refused, and otherwise they come to all of their text. A call that cancels its rendering and gives
way later is not given control back, and its rendering is refused; one that comes to its end
without giving way fails or has its output, and then the blocks behind it come to what they come to
in a rendering that is cancelled. Either it gives way or it comes to its end. -/
theorem cancellation_sticks :
    (∀ (σ : Type) (moment next : Moment σ), moment.step = some next →
      next.world.cancelled = (moment.world.cancelled || moment.task.cancelsRender) ∧
        next.aside = (moment.aside || moment.task.cancelsCall)) ∧
    (∀ (σ : Type) (steps : List (Session.Step σ)) (world point : World σ)
        (starts : List (Start σ)),
      Session.Visits world steps starts point → point.cancelled = true →
        Session.started steps world = starts ∧ (Session.after steps world).cancelled = true) ∧
    (∀ (σ : Type) (steps : List (Session.Step σ)) (world : World σ) (k : Nat),
      k < (Session.started steps world).length →
        ∃ point, Session.Visits world steps ((Session.started steps world).take k) point ∧
          point.cancelled = false) ∧
    (∀ (σ : Type) (config : Config) (lookup : Lookup σ) (vars : Variables)
        (blocks : List Block) (world : World σ), world.cancelled = true →
      config.started lookup vars blocks world = [] ∧
        (config.render lookup vars blocks world).1 =
          if blocks.any Block.isCall then .error .cancelled
          else .ok (Block.plainText (config.seed vars) blocks)) ∧
    ∀ (σ : Type) (config : Config) (lookup : Lookup σ) (vars : Variables) (world : World σ)
        (done rest : List Block) (content text : Text) (call : Call) (starts : List (Start σ))
        (moment : Moment σ) (next : Task σ),
      Block.Calling config lookup (config.seed vars) world done call text starts moment →
        moment.task = .cancelRender next →
          let blocks := done ++ .call content call :: rest
          config.started lookup vars blocks world = starts ∧
          (∀ later after, Reaches Moment.step moment later → later.task = .pause after →
            (config.render lookup vars blocks world).1 = .error .cancelled) ∧
          (∀ later failure, Reaches Moment.step moment later →
            later.task = .finish (.error failure) →
              (config.render lookup vars blocks world).1 = .error (.functionFailed failure)) ∧
          (∀ later output, Reaches Moment.step moment later →
            later.task = .finish (.ok output) →
              (config.render lookup vars blocks world).1 =
                if rest.any Block.isCall then .error .cancelled
                else .ok (text ++ output ++ Block.plainText (config.seed vars) rest)) ∧
          ∃ later, Reaches Moment.step moment later ∧
            ((∃ after, later.task = .pause after) ∨ ∃ result, later.task = .finish result) := by
  refine ⟨fun _ _ _ => Moment.tokens_of_step, fun _ _ _ _ _ => Session.Visits.started,
    fun _ steps world _ => Session.exists_visits steps world, ?_, ?_⟩
  · intro σ config lookup vars blocks world hcancelled
    obtain ⟨next, ends, -⟩ :=
      Block.exists_ends_of_cancelled config lookup (config.seed vars) blocks hcancelled
    obtain ⟨hrender, hstarted⟩ := Config.render_iff_ends.mpr ends
    exact ⟨hstarted, congrArg Prod.fst hrender⟩
  · intro σ config lookup vars world done rest content text call starts moment next calling htask
      blocks
    obtain ⟨last, hreaches, hlast⟩ := Moment.exists_last moment
    have hother := Moment.cancelsRender_of_last hlast
    refine ⟨(calling.render htask hreaches hother content rest).2, ?_, ?_, ?_, last, hreaches,
      (Moment.finish_or_pause hlast
        (Moment.cancelled_of_cancelRender htask hreaches hother)).symm⟩
    · intro later after reaches hpause
      have hother : later.task.cancelsRender = false := by
        rw [hpause]
        rfl
      have hcancelled := Moment.cancelled_of_cancelRender htask reaches hother
      rw [(calling.render htask reaches hother content rest).1,
        Moment.outcome_of_pause hpause hcancelled, Block.resultAfter]
    · intro later failure reaches hfinish
      have hother : later.task.cancelsRender = false := by
        rw [hfinish]
        rfl
      rw [(calling.render htask reaches hother content rest).1,
        Moment.outcome_of_finish hfinish, Block.resultAfter]
    · intro later output reaches hfinish
      have hother : later.task.cancelsRender = false := by
        rw [hfinish]
        rfl
      rw [(calling.render htask reaches hother content rest).1,
        Moment.outcome_of_finish hfinish, Block.resultAfter, Block.cancelledResult,
        List.append_assoc]
      split <;> rfl

/-- A function that cancels the rendering and answers. -/
def Function.cancelling : Function Unit where
  name := ['c']
  description := []
  invoke _ := .cancelRender (.finish (.ok ['x']))

/-- The template `{{c}}t{{c}}`, rendered twice: the first call has its output, the second one is
refused, and the second rendering starts nothing. -/
theorem cancellation_sticks_cancelling :
    ∃ (lookup : Lookup Unit) (call : Call) (rest : List Block) (steps : List (Session.Step Unit))
      (world point : World Unit) (starts : List (Start Unit)),
      rest = [.text ['t'], .call ['c'] call] ∧
      steps = [.renderBlocks .standard lookup .empty (.call ['c'] call :: rest),
        .renderBlocks .standard lookup .empty (.call ['c'] call :: rest)] ∧
      Session.Visits world steps starts point ∧ point.cancelled = true ∧
      Session.started steps world = starts ∧ starts.length = 1 ∧
      (Config.standard.render lookup .empty (.call ['c'] call :: rest) world).1 =
        (if rest.any Block.isCall then .error .cancelled
          else .ok ([] ++ ['x'] ++ Block.plainText (Config.standard.seed .empty) rest)) ∧
      rest.any Block.isCall = true := by
  obtain ⟨-, hsession, -, -, hcall⟩ := cancellation_sticks
  let lookup : Lookup Unit := fun _ _ => some ⟨[], .cancelling, []⟩
  let call : Call := ⟨⟨none, ['c']⟩, none, []⟩
  let rest : List Block := [.text ['t'], .call ['c'] call]
  let world : World Unit := ⟨(), false, []⟩
  let start := call.entered .standard .empty ⟨[], .cancelling, []⟩ world
  have hstep : start.step = some ⟨false, .finish (.ok ['x']),
    { start.world with cancelled := true }⟩ := rfl
  have calling {moment : Moment Unit} (reaches : Reaches Moment.step start moment) :
      Block.Calling .standard lookup .empty world [] call [] _ moment :=
    .intro (.nil world) rfl rfl reaches
  have visits : Session.Visits world
      [.renderBlocks .standard lookup .empty (.call ['c'] call :: rest),
        .renderBlocks .standard lookup .empty (.call ['c'] call :: rest)] _ _ :=
    .inside (.renderBlocks (.within (calling (.single hstep)) ['c'] rest)) _
  obtain ⟨-, -, -, hanswer, -⟩ :=
    hcall Unit .standard lookup .empty world [] rest ['c'] [] call _ _ _ (calling .refl) rfl
  exact ⟨lookup, call, rest, _, world, _, _, rfl, rfl, visits, rfl,
    (hsession Unit _ _ _ _ visits rfl).1, rfl, hanswer _ ['x'] (.single hstep) rfl, rfl⟩

end Stencil
