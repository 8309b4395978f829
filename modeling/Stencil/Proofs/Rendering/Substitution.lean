import Stencil.Proofs.Rendering.Cancellation
import Stencil.Proofs.Rendering.Likeness
import Stencil.Proofs.Template.Filling
import Stencil.Proofs.Template.Joining

/-! # Templates without blocks

A template without two opening braces in a row is all text. It is rendered by filling in the
variables that it names, if it may name variables at all, and whatever else it holds is
copied. Nothing is called, so it does not matter whether the rendering has been cancelled.
-/

namespace Stencil

variable {σ : Type}

/-! ## Blocks that are joined from pieces -/

namespace Piece

/-- Blocks come to what the pieces come to that they are joined from. -/
theorem plainText_blocks (root : Variables) (pieces : List Piece) :
    Block.plainText root (blocks pieces) = pieces.flatMap (shown root) := by
  have hshown : shown root = fun piece => (piece.alone.text? root).getD [] := by
    funext piece
    cases piece <;> rfl
  rw [hshown]
  exact flatMap_blocks rfl (fun _ _ => rfl) pieces

/-- Text outside blocks makes no calls. -/
theorem isCall_blocks_ofPlain (inlineVariables : Bool) (text : Text) :
    ∀ block ∈ blocks (ofPlain inlineVariables text), block.isCall = false := by
  refine forall_blocks (fun _ => rfl) fun block hblock => ?_
  cases inlineVariables with
  | true =>
      obtain ⟨name, -, rfl⟩ := exists_var_of_mem_inline hblock
      rfl
  | false => cases List.mem_singleton.mp hblock

end Piece

/-! ## Templates -/

/-- Without two opening braces in a row all is text. -/
theorem Regions.scan_outside_of_no_opener {seen text : Text} (h : ¬ opener <:+: text) :
    scan (.outside seen) text = ⟨[.plain (seen.reverse ++ text)], none⟩ := by
  induction text generalizing seen with
  | nil => rw [scan, List.append_nil]
  | cons c rest ih =>
      have hopen : ¬ (c = '{' ∧ rest.head? = some '{') := by
        rintro ⟨rfl, hhead⟩
        obtain ⟨after, rfl⟩ := List.head?_eq_some_iff.mp hhead
        exact h ⟨[], after, rfl⟩
      have hrest : ¬ opener <:+: rest :=
        fun hrest => h (hrest.trans (List.suffix_cons c rest).isInfix)
      rw [Scanner.scan_outside_cons hopen, ih hrest, List.reverse_cons, List.append_assoc]
      rfl

theorem Template.read_of_no_opener (inlineVariables : Bool) {template : Text}
    (h : ¬ opener <:+: template) :
    read inlineVariables template =
      .ok (Piece.blocks (Piece.ofPlain inlineVariables template)) := by
  have hregions : Regions.ofTemplate template = ⟨[.plain template], none⟩ :=
    Regions.scan_outside_of_no_opener h
  apply read_of_closed
  · rw [hregions, Piece.list_plain, Piece.list]
    exact congrArg Except.ok (List.append_nil _)
  · rw [hregions]

/-- A block that is no call comes to a text. -/
theorem Block.exists_text?_of_isCall {block : Block} (h : block.isCall = false)
    (root : Variables) : ∃ text, block.text? root = some text := by
  cases block with
  | call content call => cases h
  | _ => exact ⟨_, rfl⟩

/-- Blocks without a call come to their text in any world, and start nothing. -/
theorem Block.exists_ends_of_isCall (config : Config) (lookup : Lookup σ) (root : Variables)
    {blocks : List Block} (h : ∀ block ∈ blocks, block.isCall = false) (world : World σ) :
    ∃ next, Block.Ends config lookup root world blocks (.ok (plainText root blocks)) [] next ∧
      World.Alike world next := by
  induction blocks generalizing world with
  | nil => exact ⟨world, .completed (.nil world), .refl world⟩
  | cons block rest ih =>
      obtain ⟨hblock, hrest⟩ := List.forall_mem_cons.mp h
      obtain ⟨text, htext⟩ := exists_text?_of_isCall hblock root
      obtain ⟨middle, renders, hmiddle⟩ := exists_renders_text config lookup htext world
      obtain ⟨next, ends, hnext⟩ := ih hrest middle
      refine ⟨next, ?_, hmiddle.trans hnext⟩
      rw [plainText, List.flatMap_cons, htext]
      exact .cons renders ends

/-- A template without two opening braces in a row starts nothing and succeeds, whatever the world.
Its output is the template itself if variables are not named inline, and else the template with its
variables filled in. -/
theorem pure_substitution (template : Template) (hplain : ¬ opener <:+: template.source)
    (lookup : Lookup σ) (vars : Variables) (world : World σ) :
    template.started lookup vars world = [] ∧
      World.Alike world (template.render lookup vars world).2 ∧
      (template.config.inlineVariables = false →
        (template.render lookup vars world).1 = .ok template.source) ∧
      (template.config.inlineVariables = true →
        (∃ output, (template.render lookup vars world).1 = .ok output) ∧
        ∀ output, (template.render lookup vars world).1 = .ok output ↔
          Text.Filled (template.config.seed vars) template.source output) := by
  let pieces := Piece.ofPlain template.config.inlineVariables template.source
  have hblocks : template.blocks = .ok (Piece.blocks pieces) :=
    Template.read_of_no_opener template.config.inlineVariables hplain
  obtain ⟨next, ends, hnext⟩ := Block.exists_ends_of_isCall template.config lookup
    (template.config.seed vars) (Piece.isCall_blocks_ofPlain _ _) world
  obtain ⟨hrender, hstarted⟩ := Config.render_iff_ends.mpr ends
  have houtput : template.render lookup vars world =
      (.ok (pieces.flatMap (Piece.shown (template.config.seed vars))), next) := by
    rw [Template.render_eq, hblocks]
    dsimp only
    rw [hrender, Piece.plainText_blocks]
    rfl
  rw [Template.started_eq, hblocks, houtput]
  refine ⟨hstarted, hnext, fun hoff => ?_, fun hon => ⟨⟨_, rfl⟩, fun output => ?_⟩⟩
  · have hpieces : pieces = [.text template.source] := by
      simp only [pieces, Piece.ofPlain, hoff, Bool.false_eq_true, if_false]
    rw [hpieces]
    exact congrArg Except.ok (List.append_nil template.source)
  · have hpieces : pieces = Piece.inline template.source := by
      simp only [pieces, Piece.ofPlain, hon, if_true]
    rw [Piece.filled_iff, hpieces, Except.ok.injEq, eq_comm]

/-- In `é$Ab-$1$$_}}{'\"`, rendered after a cancellation with `ab` set to `$1`, the names are `$Ab`,
which is set, and `$_`, which is not. All other characters stay, and so do those of the value. -/
theorem pure_substitution_of_strays :
    ∃ (source output : Text) (off : Config) (lookup : Lookup Unit) (vars : Variables)
      (world : World Unit),
      source = ['é', '$', 'A', 'b', '-', '$', '1', '$', '$', '_', '}', '}', '{', '\'', '\\', '"'] ∧
      output = ['é', '$', '1', '-', '$', '1', '$', '}', '}', '{', '\'', '\\', '"'] ∧
      vars.toList = [(['a', 'b'], ['$', '1'])] ∧ world.cancelled = true ∧
      ¬ opener <:+: source ∧
      (Template.mk source .standard).started lookup vars world = [] ∧
      Config.standard.inlineVariables = true ∧
      ((Template.mk source .standard).render lookup vars world).1 = .ok output ∧
      off.inlineVariables = false ∧
      ((Template.mk source off).render lookup vars world).1 = .ok source := by
  let source : Text :=
    ['é', '$', 'A', 'b', '-', '$', '1', '$', '$', '_', '}', '}', '{', '\'', '\\', '"']
  let vars : Variables := .ofList [(['a', 'b'], ['$', '1'])]
  let off : Config := { Config.standard with inlineVariables := false }
  let world : World Unit := ⟨(), true, []⟩
  have hplain : ¬ opener <:+: source := by decide +kernel
  have copied {c : Char} {rest output : Text} (hc : c ≠ '$')
      (filled : Text.Filled vars rest output) : Text.Filled vars (c :: rest) (c :: output) :=
    .char (fun hdollar => absurd hdollar hc) filled
  have dollar {c : Char} {rest output : Text} (hc : ¬ Grammar.NameStart c)
      (filled : Text.Filled vars (c :: rest) output) :
      Text.Filled vars ('$' :: c :: rest) ('$' :: output) :=
    .char (fun _ d hd => Option.some.inj hd ▸ hc) filled
  have hvalue : vars.StandsFor ['A', 'b'] ['$', '1'] :=
    @Variables.StandsFor.entry vars _ ⟨['a', 'b'], ['$', '1']⟩ List.mem_cons_self rfl
  have hnone : vars.StandsFor ['_'] [] := by
    refine .absent fun entry hentry => ?_
    rw [List.mem_singleton.mp hentry]
    decide
  have stops {c : Char} (hc : ¬ Grammar.NameChar c) (rest : Text) :
      ∀ d ∈ (c :: rest).head?, ¬ Grammar.NameChar d :=
    fun d hd => Option.some.inj hd ▸ hc
  have hstrays : Text.Filled vars ['}', '}', '{', '\'', '\\', '"']
      ['}', '}', '{', '\'', '\\', '"'] :=
    copied (by decide) (copied (by decide) (copied (by decide) (copied (by decide)
      (copied (by decide) (copied (by decide) .nil)))))
  have hunset := @Text.Filled.name vars ['_'] _ _ _ ⟨'_', rfl, by decide⟩
    (List.forall_mem_singleton.mpr (by decide)) (stops (by decide) _) hnone hstrays
  have hdollars : Text.Filled vars
      ['-', '$', '1', '$', '$', '_', '}', '}', '{', '\'', '\\', '"']
      ['-', '$', '1', '$', '}', '}', '{', '\'', '\\', '"'] :=
    copied (by decide) (dollar (by decide) (copied (by decide) (dollar (by decide) hunset)))
  have hset := @Text.Filled.name vars ['A', 'b'] _ _ _ ⟨'A', rfl, by decide⟩
    (List.forall_mem_cons.mpr ⟨by decide, List.forall_mem_singleton.mpr (by decide)⟩)
    (stops (by decide) _) hvalue hdollars
  have filled : Text.Filled vars source
      ['é', '$', '1', '-', '$', '1', '$', '}', '}', '{', '\'', '\\', '"'] :=
    copied (by decide) hset
  obtain ⟨hstarted, -, -, hon⟩ := pure_substitution ⟨source, .standard⟩ hplain (fun _ _ => none)
    vars world
  obtain ⟨-, -, hoff, -⟩ := pure_substitution ⟨source, off⟩ hplain (fun _ _ => none) vars world
  exact ⟨source, _, off, fun _ _ => none, vars, world, rfl, rfl, rfl, rfl, hplain, hstarted, rfl,
    ((hon rfl).2 _).mpr filled, rfl, hoff rfl⟩

end Stencil
