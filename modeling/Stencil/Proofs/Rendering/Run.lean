import Mathlib.Data.List.Forall2
import Stencil.Proofs.Rendering.Recording
import Stencil.Proofs.Template.Faults

/-! # Runs of a rendering

What rendering one block comes to is a relation between the world before it and the world
after it, with one rule for each kind of block and each way a call can end. A run is the
sequence of blocks that succeed, each in the world that the one before it left, up to the
end or to the first block that fails. Rendering does exactly what a run says, and a
rendering that records shows that the run's functions are the ones that were started.
-/

namespace Stencil

variable {σ : Type}

/-! ## One block -/

namespace Call

/-- The start of a call whose function was found. -/
def start (call : Call) (config : Config) (root : Variables) (found : Match σ) : Start σ :=
  ⟨found.function, ⟨call.arguments root, config⟩⟩

/-- The world in which the function of a call is started. -/
def announced (call : Call) (root : Variables) (found : Match σ) (world : World σ) : World σ :=
  world.report (Event.ofMatch call.function.function found ++
    call.operands.flatMap (Operand.events root) ++ [.invoked call.function (call.arguments root)])

/-- What comes of a call whose function was found; there is no result if it is interrupted. -/
def course (call : Call) (config : Config) (root : Variables) (found : Match σ)
    (world : World σ) : Option (Except Failure Text) × World σ :=
  (found.function.invoke ⟨call.arguments root, config⟩).run false (call.announced root found world)

end Call

section

variable (config : Config) (lookup : Lookup σ) (root : Variables)

/-- What rendering a block comes to: its output or its error, the functions it starts, and the
world it leaves. -/
inductive Block.Renders : World σ → Block → Except RenderError Text → List (Start σ) →
    World σ → Prop where
  | text (world : World σ) (content : Text) : Renders world (.text content) (.ok content) [] world
  | var (world : World σ) (name : Text) :
      Renders world (.var name) (.ok ((root.get? name).getD [])) []
        (world.report (Event.ofRead root name))
  | literal (world : World σ) (literal : Literal) :
      Renders world (.literal literal) (.ok literal.value) [] world
  | binding (world : World σ) (binding : Binding) :
      Renders world (.binding binding) (.ok (binding.value.resolve root)) []
        (world.report (binding.value.events root))
  | function (world : World σ) (ref : FunctionRef) :
      Renders world (.function ref) (.ok ref.content) [] world
  | cancelled {world : World σ} {content : Text} {call : Call}
      (hcancelled : world.cancelled = true) :
      Renders world (.call content call) (.error .cancelled) [] world
  | notFound {world : World σ} {content : Text} {call : Call} (hlive : world.cancelled = false)
      (hnone : lookup call.function.plugin call.function.function = none) :
      Renders world (.call content call) (.error (.functionNotFound call.function)) [] world
  | returned {world next : World σ} {content output : Text} {call : Call} {found : Match σ}
      (hlive : world.cancelled = false)
      (hfound : lookup call.function.plugin call.function.function = some found)
      (hcourse : call.course config root found world = (some (.ok output), next)) :
      Renders world (.call content call) (.ok output) [call.start config root found] next
  | failed {world next : World σ} {content : Text} {failure : Failure} {call : Call}
      {found : Match σ} (hlive : world.cancelled = false)
      (hfound : lookup call.function.plugin call.function.function = some found)
      (hcourse : call.course config root found world = (some (.error failure), next)) :
      Renders world (.call content call) (.error (.functionFailed failure))
        [call.start config root found] (next.report [.failed call.function failure])
  | interrupted {world next : World σ} {content : Text} {call : Call} {found : Match σ}
      (hlive : world.cancelled = false)
      (hfound : lookup call.function.plugin call.function.function = some found)
      (hcourse : call.course config root found world = (none, next)) :
      Renders world (.call content call) (.error .cancelled) [call.start config root found]
        (next.report [.interrupted call.function])

/-- Blocks that all succeed one after another, with the output of each and the functions that
they start. -/
inductive Block.Completes : World σ → List Block → List Text → List (Start σ) → World σ →
    Prop where
  | nil (world : World σ) : Completes world [] [] [] world
  | cons {world middle next : World σ} {block : Block} {rest : List Block} {output : Text}
      {outputs : List Text} {starts more : List (Start σ)}
      (head : Block.Renders config lookup root world block (.ok output) starts middle)
      (tail : Completes middle rest outputs more next) :
      Completes world (block :: rest) (output :: outputs) (starts ++ more) next

/-- How a run of blocks ends: with all outputs in order, or with the error of the first block that
fails. The blocks behind that one take no part. -/
inductive Block.Ends : World σ → List Block → Except RenderError Text → List (Start σ) →
    World σ → Prop where
  | completed {world next : World σ} {blocks : List Block} {outputs : List Text}
      {starts : List (Start σ)}
      (run : Block.Completes config lookup root world blocks outputs starts next) :
      Ends world blocks (.ok outputs.flatten) starts next
  | stopped {world middle next : World σ} {done rest : List Block} {block : Block}
      {outputs : List Text} {error : RenderError} {starts last : List (Start σ)}
      (run : Block.Completes config lookup root world done outputs starts middle)
      (failure : Block.Renders config lookup root middle block (.error error) last next) :
      Ends world (done ++ block :: rest) (.error error) (starts ++ last) next

end

section

variable {config : Config} {lookup : Lookup σ} {root : Variables}

theorem World.report_nil (world : World σ) : world.report [] = world := by
  rw [World.report, List.append_nil]

/-- Every block comes to something in every world. -/
theorem Block.exists_renders (config : Config) (lookup : Lookup σ) (root : Variables)
    (world : World σ) (block : Block) :
    ∃ result starts next, Block.Renders config lookup root world block result starts next := by
  cases block with
  | text content => exact ⟨_, _, _, .text world content⟩
  | var name => exact ⟨_, _, _, .var world name⟩
  | literal literal => exact ⟨_, _, _, .literal world literal⟩
  | binding binding => exact ⟨_, _, _, .binding world binding⟩
  | function ref => exact ⟨_, _, _, .function world ref⟩
  | call content call =>
      cases hcancelled : world.cancelled with
      | true => exact ⟨_, _, _, .cancelled hcancelled⟩
      | false =>
          cases hfound : lookup call.function.plugin call.function.function with
          | none => exact ⟨_, _, _, .notFound hcancelled hfound⟩
          | some found =>
              rcases hcourse : call.course config root found world with
                ⟨_ | failure | output, next⟩
              · exact ⟨_, _, _, .interrupted hcancelled hfound hcourse⟩
              · exact ⟨_, _, _, .failed hcancelled hfound hcourse⟩
              · exact ⟨_, _, _, .returned hcancelled hfound hcourse⟩

theorem Call.render_of_found {call : Call} {found : Match σ} {world : World σ}
    (hlive : world.cancelled = false)
    (hfound : lookup call.function.plugin call.function.function = some found) :
    call.render config lookup root world =
      match call.course config root found world with
      | (none, next) => (.error .cancelled, next.report [.interrupted call.function])
      | (some (.ok text), next) => (.ok text, next)
      | (some (.error failure), next) =>
        (.error (.functionFailed failure), next.report [.failed call.function failure]) := by
  rw [Call.render, hlive, hfound]
  rfl

/-- Rendering a block does what the relation says. -/
theorem Block.Renders.render {world next : World σ} {block : Block}
    {result : Except RenderError Text} {starts : List (Start σ)}
    (renders : Block.Renders config lookup root world block result starts next) :
    block.render config lookup root world = (result, next) := by
  cases renders with
  | text content => exact congrArg (Prod.mk _) (World.report_nil world)
  | var name => rfl
  | literal literal => exact congrArg (Prod.mk _) (World.report_nil world)
  | binding binding => rfl
  | function ref => exact congrArg (Prod.mk _) (World.report_nil world)
  | cancelled hcancelled => exact if_pos hcancelled
  | notFound hlive hnone =>
      rw [Block.render, Call.render, hlive, hnone]
      rfl
  | returned hlive hfound hcourse => rw [Block.render, Call.render_of_found hlive hfound, hcourse]
  | failed hlive hfound hcourse => rw [Block.render, Call.render_of_found hlive hfound, hcourse]
  | interrupted hlive hfound hcourse =>
      rw [Block.render, Call.render_of_found hlive hfound, hcourse]

/-! ## Blocks one after another -/

/-- Blocks that succeed put their outputs in front of what the blocks behind them come to. -/
theorem Block.Completes.renderAll_append {world middle : World σ} {done : List Block}
    {outputs : List Text} {starts : List (Start σ)}
    (run : Block.Completes config lookup root world done outputs starts middle)
    (rest : List Block) :
    Block.renderAll config lookup root (done ++ rest) world =
      ((Block.renderAll config lookup root rest middle).1.map (outputs.flatten ++ ·),
        (Block.renderAll config lookup root rest middle).2) := by
  induction run with
  | nil world =>
      rw [List.nil_append]
      rcases Block.renderAll config lookup root rest world with ⟨_ | _, next⟩ <;> rfl
  | @cons world middle next block tail output outputs starts more head _ ih =>
      rw [List.cons_append, Block.renderAll, head.render]
      dsimp only
      rw [ih]
      rcases Block.renderAll config lookup root rest next with ⟨_ | last, next⟩
      · rfl
      · exact congrArg (fun text => (Except.ok text, next)) (List.append_assoc _ _ _).symm

/-- Rendering ends as the run of its blocks does. -/
theorem Block.Ends.renderAll {world next : World σ} {blocks : List Block}
    {result : Except RenderError Text} {starts : List (Start σ)}
    (ends : Block.Ends config lookup root world blocks result starts next) :
    Block.renderAll config lookup root blocks world = (result, next) := by
  cases ends with
  | completed run =>
      have hrender := run.renderAll_append []
      rw [List.append_nil] at hrender
      rw [hrender, Block.renderAll]
      exact congrArg (fun text => (Except.ok text, next)) (List.append_nil _)
  | stopped run failure =>
      rw [run.renderAll_append, Block.renderAll, failure.render]
      rfl

/-- A block that succeeds in front of a run. -/
theorem Block.Ends.cons {world middle next : World σ} {block : Block} {rest : List Block}
    {output : Text} {result : Except RenderError Text} {starts more : List (Start σ)}
    (head : Block.Renders config lookup root world block (.ok output) starts middle)
    (tail : Block.Ends config lookup root middle rest result more next) :
    Block.Ends config lookup root world (block :: rest) (result.map (output ++ ·))
      (starts ++ more) next := by
  cases tail with
  | completed run => exact .completed (.cons head run)
  | stopped run failure =>
      rw [← List.append_assoc]
      exact .stopped (.cons head run) failure

/-- Blocks that all succeed in front of a run. -/
theorem Block.Completes.append {world middle next : World σ} {done rest : List Block}
    {outputs : List Text} {result : Except RenderError Text} {starts more : List (Start σ)}
    (run : Block.Completes config lookup root world done outputs starts middle)
    (ends : Block.Ends config lookup root middle rest result more next) :
    Block.Ends config lookup root world (done ++ rest) (result.map (outputs.flatten ++ ·))
      (starts ++ more) next := by
  induction run with
  | nil world =>
      have hresult : result.map (([] : List Text).flatten ++ ·) = result := by
        cases result <;> rfl
      rw [hresult]
      exact ends
  | @cons _ _ _ _ _ output outputs starts _ head _ ih =>
      have hresult : result.map ((output :: outputs).flatten ++ ·) =
          (result.map (outputs.flatten ++ ·)).map (output ++ ·) := by
        cases result with
        | error error => rfl
        | ok text => exact congrArg Except.ok (List.append_assoc _ _ _)
      rw [hresult, List.append_assoc]
      exact .cons head (ih ends)

/-- Every run ends, one way or the other. -/
theorem Block.exists_ends (config : Config) (lookup : Lookup σ) (root : Variables)
    (world : World σ) (blocks : List Block) :
    ∃ result starts next, Block.Ends config lookup root world blocks result starts next := by
  induction blocks generalizing world with
  | nil => exact ⟨_, _, _, .completed (.nil world)⟩
  | cons block rest ih =>
      obtain ⟨result, starts, middle, hblock⟩ :=
        Block.exists_renders config lookup root world block
      cases result with
      | error error => exact ⟨_, _, _, .stopped (.nil world) hblock⟩
      | ok output =>
          obtain ⟨result, more, next, hrest⟩ := ih middle
          exact ⟨_, _, _, .cons hblock hrest⟩

/-! ## Recorded runs -/

theorem World.report_recorded (world : World σ) (events : List Event)
    (record : List (Start σ)) :
    (world.report events).recorded record = (world.recorded record).report events := rfl

/-- A call whose function is recorded comes to the same, after its start was noted. -/
theorem Call.course_recorded {call : Call} {found : Match σ} {world next : World σ}
    {result : Option (Except Failure Text)}
    (hcourse : call.course config root found world = (result, next)) (record : List (Start σ)) :
    call.course config root found.recorded (world.recorded record) =
      (result, next.recorded (record ++ [call.start config root found])) := by
  have hrun := found.function.run_recorded ⟨call.arguments root, config⟩
    (call.announced root found world) record
  rw [Call.course] at hcourse
  rw [hcourse] at hrun
  exact hrun

theorem Lookup.recorded_eq_none {plugin : Option Text} {name : Text}
    (hnone : lookup plugin name = none) : lookup.recorded plugin name = none := by
  rw [Lookup.recorded, hnone]
  rfl

theorem Lookup.recorded_eq_some {plugin : Option Text} {name : Text} {found : Match σ}
    (hfound : lookup plugin name = some found) :
    lookup.recorded plugin name = some found.recorded := by
  rw [Lookup.recorded, hfound]
  rfl

/-- Rendering a block that records comes to the same, and the record grows by what it starts. -/
theorem Block.Renders.recorded {world next : World σ} {block : Block}
    {result : Except RenderError Text} {starts : List (Start σ)}
    (renders : Block.Renders config lookup root world block result starts next)
    (record : List (Start σ)) :
    ∃ more, Block.Renders config lookup.recorded root (world.recorded record) block result more
      (next.recorded (record ++ starts)) := by
  cases renders with
  | text content =>
      rw [List.append_nil]
      exact ⟨[], .text _ content⟩
  | var name =>
      rw [List.append_nil]
      exact ⟨[], .var _ name⟩
  | literal literal =>
      rw [List.append_nil]
      exact ⟨[], .literal _ literal⟩
  | binding binding =>
      rw [List.append_nil]
      exact ⟨[], .binding _ binding⟩
  | function ref =>
      rw [List.append_nil]
      exact ⟨[], .function _ ref⟩
  | cancelled hcancelled =>
      rw [List.append_nil]
      exact ⟨[], .cancelled hcancelled⟩
  | notFound hlive hnone =>
      rw [List.append_nil]
      exact ⟨[], .notFound hlive (Lookup.recorded_eq_none hnone)⟩
  | returned hlive hfound hcourse =>
      have hrecorded := Call.course_recorded hcourse record
      exact ⟨_, .returned hlive (Lookup.recorded_eq_some hfound) hrecorded⟩
  | failed hlive hfound hcourse =>
      have hrecorded := Call.course_recorded hcourse record
      rw [World.report_recorded]
      exact ⟨_, .failed hlive (Lookup.recorded_eq_some hfound) hrecorded⟩
  | interrupted hlive hfound hcourse =>
      have hrecorded := Call.course_recorded hcourse record
      rw [World.report_recorded]
      exact ⟨_, .interrupted hlive (Lookup.recorded_eq_some hfound) hrecorded⟩

theorem Block.Completes.recorded {world next : World σ} {blocks : List Block}
    {outputs : List Text} {starts : List (Start σ)}
    (run : Block.Completes config lookup root world blocks outputs starts next)
    (record : List (Start σ)) :
    ∃ more, Block.Completes config lookup.recorded root (world.recorded record) blocks outputs
      more (next.recorded (record ++ starts)) := by
  induction run generalizing record with
  | nil world =>
      rw [List.append_nil]
      exact ⟨[], .nil _⟩
  | @cons _ _ _ _ _ _ _ starts _ head _ ih =>
      obtain ⟨first, hhead⟩ := head.recorded record
      obtain ⟨rest, htail⟩ := ih (record ++ starts)
      rw [List.append_assoc] at htail
      exact ⟨first ++ rest, .cons hhead htail⟩

/-- A run that records ends in the same way, and the record grows by what the run starts. -/
theorem Block.Ends.recorded {world next : World σ} {blocks : List Block}
    {result : Except RenderError Text} {starts : List (Start σ)}
    (ends : Block.Ends config lookup root world blocks result starts next)
    (record : List (Start σ)) :
    ∃ more, Block.Ends config lookup.recorded root (world.recorded record) blocks result more
      (next.recorded (record ++ starts)) := by
  cases ends with
  | completed run =>
      obtain ⟨more, hrun⟩ := run.recorded record
      exact ⟨more, .completed hrun⟩
  | @stopped _ _ _ _ _ _ _ starts last run failure =>
      obtain ⟨first, hrun⟩ := run.recorded record
      obtain ⟨rest, hfailure⟩ := failure.recorded (record ++ starts)
      rw [List.append_assoc] at hfailure
      exact ⟨first ++ rest, .stopped hrun hfailure⟩

/-- The functions that a rendering starts are those of its run. -/
theorem Block.Ends.started {vars : Variables} {world next : World σ} {blocks : List Block}
    {result : Except RenderError Text} {starts : List (Start σ)}
    (ends : Block.Ends config lookup (config.seed vars) world blocks result starts next) :
    config.started lookup vars blocks world = starts := by
  obtain ⟨more, hrecorded⟩ := ends.recorded []
  rw [Config.started, Config.render, hrecorded.renderAll]
  rfl

end

/-! ## The functions of a run -/

/-- The call that a block is, if it is one. -/
def Block.call? : Block → Option Call
  | .call _ c => some c
  | _ => none

/-- The function of a call, if there is one of that name. -/
def Call.target (lookup : Lookup σ) (call : Call) : Option (Function σ) :=
  (lookup call.function.plugin call.function.function).map Match.function

/-- The function that a block calls, if there is one of that name. -/
def Block.target (lookup : Lookup σ) : Block → Option (Function σ)
  | .call _ c => (lookup c.function.plugin c.function.function).map Match.function
  | _ => none

theorem Block.target_eq (lookup : Lookup σ) (block : Block) :
    block.target lookup = block.call?.bind (Call.target lookup) := by
  cases block <;> rfl

/-- What the function of a call is started as. -/
def Call.Starts (config : Config) (lookup : Lookup σ) (root : Variables) (call : Call)
    (start : Start σ) : Prop :=
  ∃ found, lookup call.function.plugin call.function.function = some found ∧
    start = call.start config root found

theorem Call.map_function {config : Config} {lookup : Lookup σ} {root : Variables}
    {calls : List Call} {starts : List (Start σ)}
    (hstarts : List.Forall₂ (Call.Starts config lookup root) calls starts) :
    starts.map Start.function = calls.filterMap (Call.target lookup) := by
  induction hstarts with
  | nil => rfl
  | cons hstart _ ih =>
      obtain ⟨found, hfound, rfl⟩ := hstart
      rw [List.map_cons, ih, List.filterMap_cons, target, hfound]
      rfl

section

variable {config : Config} {lookup : Lookup σ} {root : Variables}

/-- A block starts the function of its call, or fails without having started anything. -/
theorem Block.Renders.forall_starts {world next : World σ} {block : Block}
    {result : Except RenderError Text} {starts : List (Start σ)}
    (renders : Block.Renders config lookup root world block result starts next) :
    List.Forall₂ (Call.Starts config lookup root) block.call?.toList starts ∨
      starts = [] ∧ ∃ error, result = .error error := by
  cases renders with
  | text content => exact .inl .nil
  | var name => exact .inl .nil
  | literal literal => exact .inl .nil
  | binding binding => exact .inl .nil
  | function ref => exact .inl .nil
  | cancelled hcancelled => exact .inr ⟨rfl, _, rfl⟩
  | notFound hlive hnone => exact .inr ⟨rfl, _, rfl⟩
  | returned hlive hfound hcourse => exact .inl (.cons ⟨_, hfound, rfl⟩ .nil)
  | failed hlive hfound hcourse => exact .inl (.cons ⟨_, hfound, rfl⟩ .nil)
  | interrupted hlive hfound hcourse => exact .inl (.cons ⟨_, hfound, rfl⟩ .nil)

/-- Blocks that all succeed start one function for each call. -/
theorem Block.Completes.forall_starts {world next : World σ} {blocks : List Block}
    {outputs : List Text} {starts : List (Start σ)}
    (run : Block.Completes config lookup root world blocks outputs starts next) :
    List.Forall₂ (Call.Starts config lookup root) (blocks.filterMap Block.call?) starts := by
  rw [List.filterMap_eq_flatMap_toList]
  induction run with
  | nil world => exact .nil
  | cons head tail ih =>
      rcases head.forall_starts with hhead | ⟨-, error, herror⟩
      · exact List.rel_append hhead ih
      · cases herror

/-- A run starts functions for the first of its calls. -/
theorem Block.Ends.forall_starts {world next : World σ} {blocks : List Block}
    {result : Except RenderError Text} {starts : List (Start σ)}
    (ends : Block.Ends config lookup root world blocks result starts next) :
    ∃ calls, calls <+: blocks.filterMap Block.call? ∧
      List.Forall₂ (Call.Starts config lookup root) calls starts := by
  cases ends with
  | completed run => exact ⟨_, List.prefix_rfl, run.forall_starts⟩
  | @stopped _ _ done rest block _ _ _ _ run failure =>
      rw [List.filterMap_append, List.filterMap_eq_flatMap_toList (l := block :: rest),
        List.flatMap_cons]
      rcases failure.forall_starts with hlast | ⟨rfl, -⟩
      · refine ⟨done.filterMap Block.call? ++ block.call?.toList, ?_,
          List.rel_append run.forall_starts hlast⟩
        exact (List.prefix_append_right_inj _).mpr (List.prefix_append _ _)
      · rw [List.append_nil]
        exact ⟨_, List.prefix_append _ _, run.forall_starts⟩

/-- A run starts functions in the order in which its blocks call them and leaves none out. -/
theorem Block.Ends.map_function {world next : World σ} {blocks : List Block}
    {result : Except RenderError Text} {starts : List (Start σ)}
    (ends : Block.Ends config lookup root world blocks result starts next) :
    starts.map Start.function <+: blocks.filterMap (Block.target lookup) := by
  obtain ⟨calls, hfirst, hstarts⟩ := ends.forall_starts
  rw [funext (Block.target_eq lookup), ← List.filterMap_filterMap, Call.map_function hstarts]
  exact hfirst.filterMap _

end

/-! ## Renderings -/

/-- Rendering blocks is their run: it ends as the run ends, in the world that the run leaves, and
starts the functions that the run starts. -/
theorem Config.render_iff_ends {config : Config} {lookup : Lookup σ} {vars : Variables}
    {blocks : List Block} {world next : World σ} {result : Except RenderError Text}
    {starts : List (Start σ)} :
    (config.render lookup vars blocks world = (result, next) ∧
        config.started lookup vars blocks world = starts) ↔
      Block.Ends config lookup (config.seed vars) world blocks result starts next := by
  constructor
  · rintro ⟨hrender, rfl⟩
    obtain ⟨result, starts, next, ends⟩ :=
      Block.exists_ends config lookup (config.seed vars) world blocks
    rw [Config.render, ends.renderAll] at hrender
    cases hrender
    rw [ends.started]
    exact ends
  · intro ends
    exact ⟨ends.renderAll, ends.started⟩

/-- Blocks that all succeed put their text in front of what the blocks behind them come to. -/
theorem Config.render_append {config : Config} {lookup : Lookup σ} {vars : Variables}
    {before : List Block} {world middle : World σ} {text : Text}
    (hbefore : config.render lookup vars before world = (.ok text, middle))
    (after : List Block) :
    config.render lookup vars (before ++ after) world =
      ((config.render lookup vars after middle).1.map (text ++ ·),
        (config.render lookup vars after middle).2) := by
  cases Config.render_iff_ends.mp ⟨hbefore, rfl⟩ with
  | completed run => exact run.renderAll_append after

/-- Recording is passive: the rendering ends as it does without, in the same world beside the
record, which has grown by the functions that were started. -/
theorem Config.render_recorded (config : Config) (lookup : Lookup σ) (vars : Variables)
    (blocks : List Block) (world : World σ) (record : List (Start σ)) :
    config.render lookup.recorded vars blocks (world.recorded record) =
      ((config.render lookup vars blocks world).1,
        (config.render lookup vars blocks world).2.recorded
          (record ++ config.started lookup vars blocks world)) := by
  obtain ⟨result, starts, next, ends⟩ :=
    Block.exists_ends config lookup (config.seed vars) world blocks
  obtain ⟨more, hrecorded⟩ := ends.recorded record
  rw [ends.started, Config.render, Config.render, hrecorded.renderAll, ends.renderAll]

/-- A template with a fault is refused before anything is done, and only such a template is. -/
theorem Template.refused_iff_hasFault {template : Template} {lookup : Lookup σ}
    {vars : Variables} {world : World σ} :
    ((∃ refusal, template.render lookup vars world = (.error (.refused refusal), world)) ∧
        template.started lookup vars world = []) ↔
      HasFault template.source := by
  rw [← @read_eq_error template.config.inlineVariables, Template.started, Template.render,
    Template.render, Template.blocks]
  cases read template.config.inlineVariables template.source with
  | error refusal => exact ⟨fun _ => ⟨refusal, rfl⟩, fun _ => ⟨⟨refusal, rfl⟩, rfl⟩⟩
  | ok blocks =>
      constructor
      · rintro ⟨⟨refusal, hrender⟩, -⟩
        dsimp only at hrender
        rcases hblocks : template.config.render lookup vars blocks world with ⟨_ | _, next⟩
        · rw [hblocks] at hrender
          cases hrender
        · rw [hblocks] at hrender
          cases hrender
      · rintro ⟨refusal, hrefusal⟩
        cases hrefusal

/-- Rendering runs the blocks from left to right and stops at the first one that fails. The
functions that it starts are those of the run, in the order of the calls and without a gap.
A template with a fault anywhere is refused, whatever the world, and starts nothing. -/
theorem render_in_order (lookup : Lookup σ) (vars : Variables) (world : World σ) :
    (∀ (config : Config) (blocks : List Block),
      (∀ (result : Except RenderError Text) (starts : List (Start σ)) (next : World σ),
        (config.render lookup vars blocks world = (result, next) ∧
            config.started lookup vars blocks world = starts) ↔
          Block.Ends config lookup (config.seed vars) world blocks result starts next) ∧
      (config.started lookup vars blocks world).map Start.function <+:
        blocks.filterMap (Block.target lookup)) ∧
    ∀ template : Template,
      ((∃ refusal, template.render lookup vars world = (.error (.refused refusal), world)) ∧
          template.started lookup vars world = []) ↔
        Template.HasFault template.source := by
  refine ⟨fun config blocks => ⟨fun result starts next => Config.render_iff_ends, ?_⟩,
    fun template => Template.refused_iff_hasFault⟩
  obtain ⟨result, starts, next, ends⟩ :=
    Block.exists_ends config lookup (config.seed vars) world blocks
  rw [ends.started]
  exact ends.map_function

end Stencil
