import Stencil.Proofs.Rendering.Run
import Stencil.Proofs.Template.Joining

/-! # Renderings one behind the other

Blocks in two lists are rendered as each list on its own: the second rendering starts in the
world that the first one leaves, and only if the first one succeeds. As the blocks of a
template with a safe cut are those of its two parts, the template is rendered like the parts
one behind the other.
-/

namespace Stencil

variable {σ : Type}

/-- A rendering and another one behind it, which takes place only if the first succeeds. -/
def Rendering.andThen {ε : Type} (first : Except ε Text × World σ)
    (second : World σ → Except ε Text × World σ) : Except ε Text × World σ :=
  match first with
  | (.error error, next) => (.error error, next)
  | (.ok text, next) => ((second next).1.map (text ++ ·), (second next).2)

namespace Rendering

variable {ε : Type}

theorem andThen_ok (text : Text) (next : World σ)
    (second : World σ → Except ε Text × World σ) :
    andThen (.ok text, next) second = ((second next).1.map (text ++ ·), (second next).2) := rfl

theorem andThen_assoc (first : Except ε Text × World σ)
    (second third : World σ → Except ε Text × World σ) :
    andThen (andThen first second) third =
      andThen first fun world => andThen (second world) third := by
  rcases first with ⟨_ | text, next⟩
  · rfl
  · rw [andThen_ok, andThen_ok]
    rcases second next with ⟨_ | more, middle⟩
    · rfl
    · rw [andThen_ok]
      simp only [Except.map, andThen_ok]
      rcases third middle with ⟨_ | last, _⟩
      · rfl
      · simp only [List.append_assoc]

/-- Errors can be wrapped before or after. -/
theorem mapError_andThen {ε' : Type} (wrap : ε → ε') (first : Except ε Text × World σ)
    (second : World σ → Except ε Text × World σ) :
    ((andThen first second).1.mapError wrap, (andThen first second).2) =
      andThen (first.1.mapError wrap, first.2) fun world =>
        ((second world).1.mapError wrap, (second world).2) := by
  rcases first with ⟨_ | text, next⟩
  · rfl
  · rw [andThen_ok]
    simp only [Except.mapError, andThen_ok]
    rcases second next with ⟨_ | more, _⟩ <;> rfl

end Rendering

section

variable (config : Config) (lookup : Lookup σ) (root : Variables)

theorem Block.renderAll_cons (block : Block) (rest : List Block) (world : World σ) :
    renderAll config lookup root (block :: rest) world =
      Rendering.andThen (block.render config lookup root world)
        (renderAll config lookup root rest) := by
  rw [renderAll]
  rcases block.render config lookup root world with ⟨_ | first, next⟩
  · rfl
  · rw [Rendering.andThen_ok]
    dsimp only
    rcases renderAll config lookup root rest next with ⟨_ | last, _⟩ <;> rfl

/-- Blocks in two lists are rendered as the two lists one behind the other. -/
theorem Block.renderAll_append (first second : List Block) (world : World σ) :
    renderAll config lookup root (first ++ second) world =
      Rendering.andThen (renderAll config lookup root first world)
        (renderAll config lookup root second) := by
  induction first generalizing world with
  | nil =>
      rw [List.nil_append, renderAll, Rendering.andThen_ok]
      rcases renderAll config lookup root second world with ⟨_ | text, next⟩ <;> rfl
  | cons block rest ih =>
      rw [List.cons_append, renderAll_cons, renderAll_cons, Rendering.andThen_assoc, funext ih]

/-- Text comes to the same in one block and in two. -/
theorem Block.renderAll_text_append (first second : Text) (rest : List Block) :
    renderAll config lookup root (.text (first ++ second) :: rest) =
      renderAll config lookup root (.text first :: .text second :: rest) := by
  funext world
  have hrender (text : Text) :
      (Block.text text).render config lookup root world = (.ok text, world) :=
    (Renders.text world text).render
  rw [renderAll_cons, renderAll_cons, hrender, hrender]
  rw [Rendering.andThen_ok, Rendering.andThen_ok, renderAll_cons, hrender, Rendering.andThen_ok]
  rcases renderAll config lookup root rest world with ⟨_ | text, next⟩
  · rfl
  · exact congrArg (fun text => (Except.ok text, next)) (List.append_assoc first second text)

variable {first second joint : List Block}

theorem Block.Joins.renderAll (joins : Block.Joins first second joint) (world : World σ) :
    Block.renderAll config lookup root joint world =
      Rendering.andThen (Block.renderAll config lookup root first world)
        (Block.renderAll config lookup root second) := by
  cases joins with
  | apart => exact renderAll_append config lookup root first second world
  | merged before last front after =>
      rw [renderAll_append, renderAll_text_append, ← renderAll_append, List.append_cons,
        renderAll_append]

end

section

variable {config : Config} {lookup : Lookup σ} {vars : Variables} {first second joint : List Block}

/-- Joined blocks start what the first blocks start and then, if these succeed, what the second
ones start. -/
theorem Config.started_joins (joins : Block.Joins first second joint) (world : World σ) :
    config.started lookup vars joint world =
      config.started lookup vars first world ++
        match config.render lookup vars first world with
        | (.error _, _) => []
        | (.ok _, next) => config.started lookup vars second next := by
  rw [started, render, joins.renderAll, ← render, render_recorded, List.nil_append]
  change (Rendering.andThen _ (config.render lookup.recorded vars second)).2.shared.2 = _
  rcases config.render lookup vars first world with ⟨_ | text, next⟩
  · rw [List.append_nil]
    rfl
  · rw [Rendering.andThen_ok, render_recorded]
    rfl

end

namespace Template

section

variable {config : Config} {first second : Text} {blocks more joint : List Block}

/-- Templates whose blocks join are rendered one behind the other. -/
theorem render_joins (hfirst : (Template.mk first config).blocks = .ok blocks)
    (hsecond : (Template.mk second config).blocks = .ok more)
    (hjoint : (Template.mk (first ++ second) config).blocks = .ok joint)
    (joins : Block.Joins blocks more joint) (lookup : Lookup σ) (vars : Variables)
    (world : World σ) :
    (Template.mk (first ++ second) config).render lookup vars world =
      Rendering.andThen ((Template.mk first config).render lookup vars world)
        ((Template.mk second config).render lookup vars) := by
  have hrest : (Template.mk second config).render lookup vars = fun world =>
      ((config.render lookup vars more world).1.mapError .render,
        (config.render lookup vars more world).2) := by
    funext world
    rw [render_eq, hsecond]
  rw [hrest, render_eq, render_eq, hfirst, hjoint]
  simp only [Config.render, joins.renderAll]
  exact Rendering.mapError_andThen _ _ _

/-- Templates whose blocks join start the functions of both, unless the first one fails. -/
theorem started_joins (hfirst : (Template.mk first config).blocks = .ok blocks)
    (hsecond : (Template.mk second config).blocks = .ok more)
    (hjoint : (Template.mk (first ++ second) config).blocks = .ok joint)
    (joins : Block.Joins blocks more joint) (lookup : Lookup σ) (vars : Variables)
    (world : World σ) :
    (Template.mk (first ++ second) config).started lookup vars world =
      (Template.mk first config).started lookup vars world ++
        match (Template.mk first config).render lookup vars world with
        | (.error _, _) => []
        | (.ok _, next) => (Template.mk second config).started lookup vars next := by
  rw [started_eq, started_eq, render_eq, hfirst, hjoint]
  dsimp only
  rw [Config.started_joins joins]
  rcases config.render lookup vars blocks world with ⟨_ | text, next⟩
  · rfl
  · dsimp only [Except.mapError]
    rw [started_eq, hsecond]

end

end Template

/-- At a safe cut a template is its two parts one behind the other. Its blocks are those of the
first part and those of the second, with text at the cut in one block. It is refused for what the
second part is refused for, as far behind the cut. And it is rendered as the first part and then,
if that succeeds, the second. -/
theorem composes_at_safe_cut {inlineVariables : Bool} {first second : Text} {blocks : List Block}
    (hfirst : Template.read inlineVariables first = .ok blocks) (hcut : first.SafeCut second) :
    (∀ more, Template.read inlineVariables second = .ok more →
      (∃ joint, Template.read inlineVariables (first ++ second) = .ok joint ∧
        Block.Joins blocks more joint) ∧
      ∀ (σ : Type) (config : Config) (lookup : Lookup σ) (vars : Variables) (world : World σ),
        config.inlineVariables = inlineVariables →
        (Template.mk (first ++ second) config).render lookup vars world =
            Rendering.andThen ((Template.mk first config).render lookup vars world)
              ((Template.mk second config).render lookup vars) ∧
          (Template.mk (first ++ second) config).started lookup vars world =
            (Template.mk first config).started lookup vars world ++
              match (Template.mk first config).render lookup vars world with
              | (.error _, _) => []
              | (.ok _, next) => (Template.mk second config).started lookup vars next) ∧
    ∀ refusal, Template.read inlineVariables second = .error refusal →
      Template.read inlineVariables (first ++ second) =
        .error ⟨first ++ second, refusal.error.shift first.byteLength⟩ := by
  obtain ⟨hread, hrefused⟩ := Template.read_append hfirst hcut
  refine ⟨fun more hsecond => ?_, hrefused⟩
  obtain ⟨joint, hjoint, joins⟩ := hread more hsecond
  refine ⟨⟨joint, hjoint, joins⟩, fun σ config lookup vars world hinline => ?_⟩
  subst hinline
  exact ⟨Template.render_joins hfirst hsecond hjoint joins lookup vars world,
    Template.started_joins hfirst hsecond hjoint joins lookup vars world⟩

/-- Behind `é{` the template `-{{f}}$x` goes on with the text at the cut, and the fault of `-{{=}}`
is found three bytes further on. -/
theorem composes_at_safe_cut_behind_brace :
    ∃ (first second refused : Text) (call : Call) (blocks more joint : List Block)
      (refusal : Refusal) (lookup : Lookup Unit) (vars : Variables) (world : World Unit),
      first = ['é', '{'] ∧ second = ['-'] ++ opener ++ ['f'] ++ closer ++ ['$', 'x'] ∧
      refused = ['-'] ++ opener ++ ['='] ++ closer ∧
      first.SafeCut second ∧ first.SafeCut refused ∧
      Template.read true first = .ok blocks ∧ blocks = [.text first] ∧
      Template.read true second = .ok more ∧
      more = [.text ['-'], .call ['f'] call, .var ['x']] ∧
      (Template.read true (first ++ second) = .ok joint ∧ Block.Joins blocks more joint) ∧
      Config.standard.inlineVariables = true ∧
      (Template.mk (first ++ second) .standard).render lookup vars world =
        Rendering.andThen ((Template.mk first .standard).render lookup vars world)
          ((Template.mk second .standard).render lookup vars) ∧
      Template.read true refused = .error refusal ∧ refusal.error = ⟨.namelessArgument, 3, 1⟩ ∧
      Template.read true (first ++ refused) =
        .error ⟨first ++ refused, .namelessArgument, 6, 1⟩ := by
  let first : Text := ['é', '{']
  let second : Text := ['-'] ++ opener ++ ['f'] ++ closer ++ ['$', 'x']
  let refused : Text := ['-'] ++ opener ++ ['='] ++ closer
  let call : Call := ⟨⟨none, ['f']⟩, none, []⟩
  have hcut {rest : Text} (hhead : rest.head? = some '-') : first.SafeCut rest := by
    constructor
    · rintro ⟨-, after, rfl⟩
      cases hhead
    · rintro ⟨-, c, hc, hname⟩
      rw [hhead] at hc
      cases hc
      exact absurd hname (by decide)
  have hfirst : Template.read true first = .ok [.text first] := by decide +kernel
  have hsecond : Template.read true second =
      .ok [.text ['-'], .call ['f'] call, .var ['x']] := by
    decide +kernel
  have hrefused : Template.read true refused = .error ⟨refused, .namelessArgument, 3, 1⟩ := by
    decide +kernel
  obtain ⟨⟨joint, hjoint⟩, hrender⟩ :=
    (composes_at_safe_cut hfirst (@hcut second rfl)).1 _ hsecond
  have hmoved := (composes_at_safe_cut hfirst (@hcut refused rfl)).2 _ hrefused
  exact ⟨first, second, refused, call, _, _, joint, _, fun _ _ => none, .empty, ⟨(), false, []⟩,
    rfl, rfl, rfl, hcut rfl, hcut rfl, hfirst, rfl, hsecond, rfl, hjoint, rfl,
    (hrender Unit .standard _ _ _ rfl).1, hrefused, rfl, hmoved⟩

end Stencil
