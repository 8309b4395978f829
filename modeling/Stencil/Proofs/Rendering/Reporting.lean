import Stencil.Proofs.Registry.Resolution
import Stencil.Proofs.Rendering.Cancellation
import Stencil.Proofs.Template.Listing
import Stencil.Proofs.Variables.History

/-! # What a rendering reports

A rendering that is not cancelled reports what it evaluates, block by block, up to the first block
that fails. Functions report nothing themselves, so each report is that of a block: an argument that
reads a variable which is not set, a name that several plugins have, a call, and its failure.
-/

namespace Stencil

variable {σ : Type}

/-! ## Variables that are not set -/

/-- No variable has the name, in whatever case it is spelt. -/
def Variables.Absent (vars : Variables) (name : Text) : Prop :=
  ∀ spelling ∈ vars.names, ¬ spelling.Recased name

instance (vars : Variables) (name : Text) : Decidable (vars.Absent name) :=
  inferInstanceAs (Decidable (∀ _ ∈ _, _))

theorem Variables.absent_iff {vars : Variables} {name : Text} :
    vars.Absent name ↔ vars.get? name = none := by
  rw [get?_eq_none_iff, Absent, names, List.forall_mem_map]
  simp only [← Text.sameName_iff_recased, Bool.not_eq_true]

theorem Event.ofRead_eq (root : Variables) (name : Text) :
    ofRead root name = if root.Absent name then [missing name] else [] := by
  rw [ofRead, Variables.contains]
  by_cases habsent : root.Absent name
  · rw [if_pos habsent, Variables.absent_iff.mp habsent]
    rfl
  · rw [if_neg habsent, if_pos]
    rwa [Option.isSome_iff_ne_none, ne_eq, ← Variables.absent_iff]

/-- A report for each argument that reads a variable which is not set, in the order of the
arguments. -/
def Operand.missing (root : Variables) (operands : List Operand) : List Event :=
  ((operands.filterMap reads?).filter fun name => root.Absent name).map .missing

theorem Operand.missing_eq_flatMap (root : Variables) (operands : List Operand) :
    missing root operands = operands.flatMap (events root) := by
  induction operands with
  | nil => rfl
  | cons operand rest ih =>
      rw [List.flatMap_cons, ← ih]
      cases operand with
      | literal literal => rfl
      | var name =>
          rw [events, Event.ofRead_eq]
          by_cases habsent : root.Absent name
          · simp [missing, reads?, habsent]
          · simp [missing, reads?, habsent]

/-- The variable that a report says is not set. -/
def Event.missing? : Event → Option Text
  | .missing name => some name
  | _ => none

theorem Operand.filterMap_missing? (root : Variables) (operands : List Operand) :
    (missing root operands).filterMap Event.missing? =
      (operands.filterMap reads?).filter fun name => root.Absent name := by
  rw [missing, List.filterMap_map]
  exact List.filterMap_some

/-! ## Names that several plugins have -/

namespace Lookup

theorem resolve_of_found {lookup : Lookup σ} {wanted : Option Text} {name : Text} {found : Match σ}
    (hfound : lookup wanted name = some found) :
    lookup.resolve wanted name = (some found.function, Event.ofMatch name found) := by
  rw [resolve, hfound]

theorem resolve_fst (lookup : Lookup σ) (wanted : Option Text) (name : Text) :
    (lookup.resolve wanted name).1 = (lookup wanted name).map Match.function := by
  rw [resolve]
  cases lookup wanted name <;> rfl

/-- A lookup does not report variables. -/
theorem filterMap_missing?_resolve (lookup : Lookup σ) (wanted : Option Text)
    (name : Text) : (lookup.resolve wanted name).2.filterMap Event.missing? = [] := by
  rw [resolve]
  cases lookup wanted name with
  | none => rfl
  | some found =>
      dsimp only
      rw [Event.ofMatch]
      split <;> rfl

end Lookup

namespace Registry

/-- What looking for a function reports: without the name of a plugin, that several have it. The
first of them is taken. -/
def ambiguity (registry : Registry σ) (wanted : Option Text) (name : Text) : List Event :=
  if Unqualified wanted then
    match (registry.plugins.filter fun plugin => plugin.Has name).map Plugin.name with
    | owner :: other :: others => [.ambiguous name owner (other :: others)]
    | _ => []
  else []

theorem resolve_snd (registry : Registry σ) (wanted : Option Text) (name : Text) :
    (registry.lookup.resolve wanted name).2 = registry.ambiguity wanted name := by
  rw [ambiguity, Lookup.resolve]
  rcases unqualified_or wanted with hwanted | ⟨plugin, rfl, hne⟩
  · rw [lookup_unqualified hwanted, if_pos hwanted, ← map_fst_candidates]
    rcases registry.candidates name with _ | ⟨owner, _ | ⟨other, others⟩⟩ <;> rfl
  · have hqualified : ¬ Unqualified (some plugin) := by simp [Unqualified, hne]
    rw [lookup_qualified hne, if_neg hqualified]
    rcases registry.get? plugin with _ | owner
    · rfl
    · rw [Option.bind_some]
      rcases owner.get? name with _ | function <;> rfl

end Registry

/-! ## Functions report nothing -/

theorem Task.log_run (task : Task σ) (aside : Bool) (world : World σ) :
    (task.run aside world).2.log = world.log := by
  induction task generalizing aside world with
  | finish result => rfl
  | load next ih => exact ih world.shared aside world
  | store state next ih => exact ih aside { world with shared := state }
  | cancelRender next ih => exact ih aside { world with cancelled := true }
  | cancelCall next ih => exact ih true world
  | isCancelled next ih => exact ih (aside || world.cancelled) aside world
  | pause next ih =>
      rw [run]
      split
      next => rfl
      next => exact ih aside world
  | awaitCancel next ih =>
      rw [run]
      split
      next => exact ih aside world
      next => rfl

/-- A call that comes to no result leaves the rendering cancelled. -/
theorem Task.cancelled_of_run_eq_none {task : Task σ} {aside : Bool} {world next : World σ}
    (hrun : task.run aside world = (none, next)) : next.cancelled = true := by
  induction task generalizing aside world with
  | finish result => cases hrun
  | load after ih => exact ih world.shared hrun
  | store state after ih => exact ih hrun
  | cancelRender after ih => exact ih hrun
  | cancelCall after ih => exact ih hrun
  | isCancelled after ih => exact ih (aside || world.cancelled) hrun
  | pause after ih =>
      rw [run] at hrun
      split at hrun
      next hcancelled =>
        cases hrun
        exact hcancelled
      next => exact ih hrun
  | awaitCancel after ih =>
      rw [run] at hrun
      split at hrun
      next => exact ih hrun
      next =>
        cases hrun
        rfl

/-! ## One block -/

section

variable (lookup : Lookup σ) (root : Variables)

/-- What a block reports, by how its evaluation ends. A call reports the lookup first, then its
arguments, and then that it is made; if its function is not found it reports nothing. -/
inductive Block.Reports : Block → Except RenderError Text → List Event → Prop where
  | plain {block : Block} {output : Text} (hplain : block.call? = none) :
      Reports block (.ok output) (Operand.missing root block.operands)
  | notFound {content : Text} {call : Call}
      (hnone : lookup.resolve call.function.plugin call.function.function = (none, [])) :
      Reports (.call content call) (.error (.functionNotFound call.function)) []
  | returned {content output : Text} {call : Call} {function : Function σ} {found : List Event}
      (hfound : lookup.resolve call.function.plugin call.function.function =
        (some function, found)) :
      Reports (.call content call) (.ok output)
        (found ++ Operand.missing root call.operands ++
          [.invoked call.function (call.arguments root)])
  | failed {content : Text} {call : Call} {function : Function σ} {found : List Event}
      {failure : Failure}
      (hfound : lookup.resolve call.function.plugin call.function.function =
        (some function, found)) :
      Reports (.call content call) (.error (.functionFailed failure))
        (found ++ Operand.missing root call.operands ++
          [.invoked call.function (call.arguments root), .failed call.function failure])

variable (config : Config)

/-- The evaluation of a block, with what the log grows by in its course. -/
structure Block.Evaluates (world : World σ) (block : Block) (result : Except RenderError Text)
    (events : List Event) (next : World σ) : Prop where
  renders : ∃ starts, Block.Renders config lookup root world block result starts next
  reports : Block.Reports lookup root block result events
  log : next.log = world.log ++ events

/-- Blocks evaluated one after another up to the first failure, each with what it reports. -/
inductive Block.Traced : World σ → List Block → Except RenderError Text →
    List (Block × List Event) → World σ → Prop where
  | nil (world : World σ) : Traced world [] (.ok []) [] world
  | cons {world middle next : World σ} {block : Block} {rest : List Block} {output : Text}
      {result : Except RenderError Text} {events : List Event} {trace : List (Block × List Event)}
      (head : Block.Evaluates lookup root config world block (.ok output) events middle)
      (tail : Traced middle rest result trace next) :
      Traced world (block :: rest) (result.map (output ++ ·)) ((block, events) :: trace) next
  | stop {world next : World σ} {block : Block} {error : RenderError} {events : List Event}
      (failure : Block.Evaluates lookup root config world block (.error error) events next)
      (rest : List Block) : Traced world (block :: rest) (.error error) [(block, events)] next

end

/-- The variables that a block reads when it is evaluated. A call whose function is not found reads
none. -/
def Block.evaluated (lookup : Lookup σ) (block : Block) : List Text :=
  match block with
  | .call _ c => if (c.target lookup).isSome then c.reads else []
  | block => block.reads

section

variable {config : Config} {lookup : Lookup σ} {root : Variables}

theorem Call.log_course {call : Call} {found : Match σ} {world next : World σ}
    {result : Option (Except Failure Text)}
    (hcourse : call.course config root found world = (result, next)) :
    next.log = world.log ++ (Event.ofMatch call.function.function found ++
      Operand.missing root call.operands ++ [.invoked call.function (call.arguments root)]) := by
  have hlog := Task.log_run (found.function.invoke ⟨call.arguments root, config⟩) false
    (call.announced root found world)
  rw [course] at hcourse
  rw [hcourse] at hlog
  rw [hlog, Operand.missing_eq_flatMap]
  rfl

/-- A block that does not leave the rendering cancelled reports what it evaluates. -/
theorem Block.Renders.exists_evaluates {world next : World σ} {block : Block}
    {result : Except RenderError Text} {starts : List (Start σ)}
    (renders : Block.Renders config lookup root world block result starts next)
    (hlive : next.cancelled = false) :
    ∃ events, Block.Evaluates lookup root config world block result events next := by
  cases renders with
  | text content =>
      exact ⟨_, ⟨_, .text world content⟩, .plain rfl, (List.append_nil _).symm⟩
  | var name =>
      refine ⟨_, ⟨_, .var world name⟩, .plain rfl, ?_⟩
      rw [Operand.missing_eq_flatMap]
      simp [World.report, Block.operands, Operand.events]
  | literal literal =>
      exact ⟨_, ⟨_, .literal world literal⟩, .plain rfl, (List.append_nil _).symm⟩
  | binding binding =>
      refine ⟨_, ⟨_, .binding world binding⟩, .plain rfl, ?_⟩
      rw [Operand.missing_eq_flatMap]
      simp [World.report, Block.operands]
  | function ref =>
      exact ⟨_, ⟨_, .function world ref⟩, .plain rfl, (List.append_nil _).symm⟩
  | cancelled hcancelled =>
      rw [hlive] at hcancelled
      cases hcancelled
  | notFound hworld hnone =>
      refine ⟨_, ⟨_, .notFound hworld hnone⟩, .notFound ?_, (List.append_nil _).symm⟩
      rw [Lookup.resolve, hnone]
  | returned hworld hfound hcourse =>
      exact ⟨_, ⟨_, .returned hworld hfound hcourse⟩, .returned (Lookup.resolve_of_found hfound),
        Call.log_course hcourse⟩
  | failed hworld hfound hcourse =>
      refine ⟨_, ⟨_, .failed hworld hfound hcourse⟩, .failed (Lookup.resolve_of_found hfound), ?_⟩
      rw [World.report, Call.log_course hcourse]
      simp
  | interrupted hworld hfound hcourse =>
      have hcancelled : _ = true := Task.cancelled_of_run_eq_none hcourse
      rw [World.report, hcancelled] at hlive
      cases hlive

/-- A call whose function is found reports the variables that it reads and that are not set. -/
theorem Block.filterMap_missing?_of_found {content : Text} {call : Call}
    {function : Function σ} {noted more : List Event}
    (hfound : lookup.resolve call.function.plugin call.function.function =
      (some function, noted))
    (hmore : more.filterMap Event.missing? = []) :
    (noted ++ Operand.missing root call.operands ++ more).filterMap Event.missing? =
      ((Block.call content call).evaluated lookup).filter fun name => root.Absent name := by
  have htarget := lookup.resolve_fst call.function.plugin call.function.function
  have hnoted := lookup.filterMap_missing?_resolve call.function.plugin call.function.function
  rw [hfound] at htarget hnoted
  rw [List.filterMap_append, List.filterMap_append, hnoted, hmore, Operand.filterMap_missing?,
    evaluated, Call.target, ← htarget]
  exact List.append_nil _

/-- The variables that a block reports are those that it reads and that are not set. -/
theorem Block.Reports.missing {block : Block} {result : Except RenderError Text}
    {events : List Event} (reports : Block.Reports lookup root block result events) :
    events.filterMap Event.missing? =
      (block.evaluated lookup).filter fun name => root.Absent name := by
  cases reports with
  | @plain _ _ hplain =>
      rw [Operand.filterMap_missing?, ← Block.reads_eq]
      cases block with
      | call content call => cases hplain
      | _ => rfl
  | notFound hnone =>
      have htarget := congrArg Prod.fst hnone
      rw [Lookup.resolve_fst] at htarget
      rw [Block.evaluated, Call.target, htarget]
      rfl
  | returned hfound => exact Block.filterMap_missing?_of_found hfound rfl
  | failed hfound => exact Block.filterMap_missing?_of_found hfound rfl

/-! ## Blocks one after another -/

/-- A rendering that is not cancelled at its end was not cancelled before. -/
theorem Block.live_of_renderAll {blocks : List Block} {world next : World σ}
    {result : Except RenderError Text}
    (hrender : Block.renderAll config lookup root blocks world = (result, next))
    (hlive : next.cancelled = false) : world.cancelled = false := by
  cases hworld : world.cancelled with
  | false => rfl
  | true =>
      obtain ⟨last, ends, hlast⟩ :=
        Block.exists_ends_of_cancelled config lookup root blocks hworld
      rw [ends.renderAll] at hrender
      cases hrender
      rw [hlive] at hlast
      cases hlast

/-- Blocks that are rendered one after another are traced. -/
theorem Block.exists_traced {blocks : List Block} {world next : World σ}
    {result : Except RenderError Text}
    (hrender : Block.renderAll config lookup root blocks world = (result, next))
    (hlive : next.cancelled = false) :
    ∃ trace, Block.Traced lookup root config world blocks result trace next := by
  induction blocks generalizing world result with
  | nil =>
      cases hrender
      exact ⟨[], .nil _⟩
  | cons block rest ih =>
      obtain ⟨first, starts, middle, renders⟩ :=
        Block.exists_renders config lookup root world block
      cases first with
      | error error =>
          have hstop : Block.Ends config lookup root world (block :: rest) (.error error) starts
              middle := .stopped (.nil world) renders
          rw [hstop.renderAll] at hrender
          cases hrender
          obtain ⟨events, evaluates⟩ := renders.exists_evaluates hlive
          exact ⟨_, .stop evaluates rest⟩
      | ok output =>
          obtain ⟨tail, more, last, ends⟩ := Block.exists_ends config lookup root middle rest
          rw [(Block.Ends.cons renders ends).renderAll] at hrender
          cases hrender
          obtain ⟨trace, traced⟩ := ih ends.renderAll
          have hmiddle := Block.live_of_renderAll ends.renderAll hlive
          obtain ⟨events, evaluates⟩ := renders.exists_evaluates hmiddle
          exact ⟨_, .cons evaluates traced⟩

theorem Block.Traced.log {blocks : List Block} {world next : World σ}
    {result : Except RenderError Text} {trace : List (Block × List Event)}
    (traced : Block.Traced lookup root config world blocks result trace next) :
    next.log = world.log ++ trace.flatMap Prod.snd := by
  induction traced with
  | nil world => exact (List.append_nil _).symm
  | cons head _ ih => rw [ih, head.log, List.append_assoc, List.flatMap_cons]
  | stop failure rest => rw [failure.log, List.flatMap_singleton]

theorem Block.Traced.missing {blocks : List Block} {world next : World σ}
    {result : Except RenderError Text} {trace : List (Block × List Event)}
    (traced : Block.Traced lookup root config world blocks result trace next) :
    ∀ entry ∈ trace, entry.2.filterMap Event.missing? =
      (entry.1.evaluated lookup).filter fun name => root.Absent name := by
  induction traced with
  | nil world => exact List.forall_mem_nil _
  | cons head _ ih => exact List.forall_mem_cons.mpr ⟨head.reports.missing, ih⟩
  | stop failure rest => exact List.forall_mem_singleton.mpr failure.reports.missing

end

/-- The log of a rendering that is not cancelled grows by what its blocks report, one after another
up to the first that fails. A variable that is not set is reported once for each time that it is
read, and a call whose function is not found reads none. A registry reports a name without a plugin
that several of its plugins have. -/
theorem log_is_trace {config : Config} {lookup : Lookup σ} {vars : Variables}
    {blocks : List Block} {world next : World σ} {result : Except RenderError Text}
    (hrender : config.render lookup vars blocks world = (result, next))
    (hlive : next.cancelled = false) :
    ∃ trace : List (Block × List Event),
      Block.Traced lookup (config.seed vars) config world blocks result trace next ∧
      next.log = world.log ++ trace.flatMap Prod.snd ∧
      (∀ entry ∈ trace, entry.2.filterMap Event.missing? =
        (entry.1.evaluated lookup).filter fun name => (config.seed vars).Absent name) ∧
      ∀ registry : Registry σ, lookup = registry.lookup → ∀ wanted name,
        (lookup.resolve wanted name).2 = registry.ambiguity wanted name := by
  obtain ⟨trace, traced⟩ := Block.exists_traced hrender hlive
  refine ⟨trace, traced, traced.log, traced.missing, ?_⟩
  rintro registry rfl wanted name
  exact registry.resolve_snd wanted name

/-- Both plugins have an `f`, and `b.G` fails. The block behind it is not evaluated. -/
theorem log_is_trace_failing : ∃ (f g : Function Unit) (registry : Registry Unit)
    (first second : Call) (blocks : List Block) (next : World Unit)
    (trace : List (Block × List Event)),
    registry.plugins = [⟨['a'], [], [f]⟩, ⟨['b'], [], [g, { f with name := ['F'] }]⟩] ∧
    first = ⟨⟨none, ['f']⟩, some (.var ['x']), [⟨['n'], .var ['X']⟩]⟩ ∧
    second = ⟨⟨some ['b'], ['G']⟩, none, [⟨['n'], .var ['y']⟩]⟩ ∧
    blocks = [.var ['x'], .call [] first, .call [] second, .var ['x']] ∧
    Config.standard.render registry.lookup Variables.empty blocks ⟨(), false, []⟩ =
      (.error (.functionFailed ⟨['e'], none, none⟩), next) ∧
    next.cancelled = false ∧
    Block.Traced registry.lookup Variables.empty Config.standard ⟨(), false, []⟩ blocks
      (.error (.functionFailed ⟨['e'], none, none⟩)) trace next ∧
    next.log = trace.flatMap Prod.snd ∧
    next.log =
      [.missing ['x'], .ambiguous ['f'] ['a'] [['b']], .missing ['x'], .missing ['X'],
        .invoked first.function (first.arguments Variables.empty), .missing ['y'],
        .invoked second.function (second.arguments Variables.empty),
        .failed second.function ⟨['e'], none, none⟩] := by
  let f : Function Unit := ⟨['f'], [], fun _ => .finish (.ok [])⟩
  let g : Function Unit := ⟨['g'], [], fun _ => .finish (.error ⟨['e'], none, none⟩)⟩
  let registry : Registry Unit :=
    ⟨[⟨['a'], [], [f]⟩, ⟨['b'], [], [g, { f with name := ['F'] }]⟩]⟩
  let first : Call := ⟨⟨none, ['f']⟩, some (.var ['x']), [⟨['n'], .var ['X']⟩]⟩
  let second : Call := ⟨⟨some ['b'], ['G']⟩, none, [⟨['n'], .var ['y']⟩]⟩
  let blocks : List Block := [.var ['x'], .call [] first, .call [] second, .var ['x']]
  have hrender : Config.standard.render registry.lookup Variables.empty blocks ⟨(), false, []⟩ =
      (.error (.functionFailed ⟨['e'], none, none⟩), _) := rfl
  obtain ⟨trace, traced, hlog, -, -⟩ := log_is_trace hrender rfl
  exact ⟨f, g, registry, first, second, blocks, _, trace, rfl, rfl, rfl, rfl, hrender, rfl, traced,
    hlog, rfl⟩

end Stencil
