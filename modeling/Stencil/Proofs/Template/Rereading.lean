import Stencil.Proofs.Template.Names
import Stencil.Proofs.Template.Segments
import Stencil.Proofs.Template.Writing

/-! # Reading a block again

A call keeps what stood between its braces, less the blanks around it, and a variable keeps its
name. Put between braces again, with any blanks around it, either is read as the same block,
wherever it was found. The reader of expressions by itself passes over less: around an expression
it takes spaces, tabs and line ends, and no other blank. So it reads the whole inside of a block
just where no other blank stands at either end of it.
-/

namespace Stencil

open Grammar
open Text (Blanks)

/-! ## The ends of an expression -/

namespace Text

theorem trimmed_of_forall {text : Text} (hne : text ≠ [])
    (h : ∀ c ∈ text, isBlank c = false) : text.Trimmed where
  ne_nil := hne
  first c hc := h c (List.mem_of_mem_head? hc)
  last c hc := h c (List.mem_of_mem_getLast? hc)

/-- A text with trimmed ends is trimmed, whatever stands between them. -/
theorem Trimmed.append {first last : Text} (hfirst : first.Trimmed) (middle : Text)
    (hlast : last.Trimmed) : (first ++ middle ++ last).Trimmed where
  ne_nil := List.append_ne_nil_of_right_ne_nil _ hlast.ne_nil
  first := by
    obtain ⟨c, rest, rfl⟩ := List.exists_cons_of_ne_nil hfirst.ne_nil
    exact hfirst.first
  last := by
    rw [List.getLast?_append_of_ne_nil _ hlast.ne_nil]
    exact hlast.last

/-- What is left of a text without the blanks at its ends is trimmed, unless nothing is left. -/
theorem trimmed_trim {text : Text} (hne : text.trim ≠ []) : text.trim.Trimmed where
  ne_nil := hne
  first := by
    intro c hc
    obtain ⟨trail, htrail, -⟩ := exists_trimEnd (trimStart text)
    have hhead : c ∈ (trimStart text).head? := by
      rw [htrail]
      exact List.mem_head?_append_of_mem_head? hc
    have hstart := List.head?_dropWhile_not isBlank text
    rw [trimStart] at hhead
    rw [Option.mem_def.mp hhead] at hstart
    exact hstart
  last := by
    intro c hc
    rw [trim, trimEnd, List.getLast?_reverse] at hc
    have hstart := List.head?_dropWhile_not isBlank (trimStart text).reverse
    rw [Option.mem_def.mp hc] at hstart
    exact hstart

end Text

namespace Grammar

theorem Name.trimmed {name : Text} (hname : Name name) : name.Trimmed :=
  Text.trimmed_of_forall hname.1 fun c hc => (hname.2 c hc).isBlank_eq_false

theorem trimmed_singleton {c : Char} (hc : Text.isBlank c = false) : Text.Trimmed [c] :=
  Text.trimmed_of_forall (List.cons_ne_nil c []) (by simp [hc])

theorem Argument.trimmed {text : Text} {operand : Operand} (argument : Argument text operand) :
    text.Trimmed := by
  cases argument with
  | @literal quote source value inside =>
      have hquote := trimmed_singleton (Literal.isBlank_quote quote)
      exact hquote.append source hquote
  | var hname =>
      have hdollar : Text.Trimmed ['$'] := trimmed_singleton (by decide)
      exact hdollar.append [] hname.trimmed

theorem Function.trimmed {text : Text} {function : FunctionRef}
    (head : Function text function) : text.Trimmed := by
  cases head with
  | plain hname => exact hname.trimmed
  | qualified hplugin hname =>
      rw [List.append_cons]
      exact hplugin.trimmed.append ['.'] hname.trimmed

theorem Named.trimmed {text : Text} {binding : Binding} (named : Named text binding) :
    text.Trimmed := by
  cases named with
  | @intro name before after value operand hname _ _ argument =>
      rw [List.append_assoc name]
      exact hname.trimmed.append (before ++ '=' :: after) argument.trimmed

theorem Input.trimmed_append {front text : Text} {input : Option Operand}
    (hfront : front.Trimmed) (positional : Input text input) : (front ++ text).Trimmed := by
  cases positional with
  | none => simpa using hfront
  | @some gap value operand hgap _ argument =>
      rw [← List.append_assoc]
      exact hfront.append gap argument.trimmed

theorem Tail.trimmed_append {front text : Text} {named : List Binding}
    (hfront : front.Trimmed) (tail : Tail text named) : (front ++ text).Trimmed := by
  induction tail generalizing front with
  | nil => simpa using hfront
  | @cons gap text rest _ _ hgap _ named _ ih =>
      have hnamed := hfront.append gap named.trimmed
      simpa only [List.append_assoc] using ih hnamed

/-- An expression is trimmed but for the gaps around it. -/
theorem Derives.exists_core {text : Text} {expression : Expression}
    (derivation : Derives text (some expression)) :
    ∃ before core after, text = before ++ core ++ after ∧ Gap before ∧ Gap after ∧
      core.Trimmed ∧ Derives core (some expression) := by
  cases derivation with
  | @operand before value after _ hbefore argument hafter =>
      exact ⟨before, value, after, rfl, hbefore, hafter, argument.trimmed, argument.derives⟩
  | @call before name first rest after _ _ _ hbefore head positional tail hafter =>
      refine ⟨before, name ++ first ++ rest, after, by simp, hbefore, hafter, ?_, ?_⟩
      · exact tail.trimmed_append (positional.trimmed_append head.trimmed)
      · simpa using Derives.call .nil head positional tail .nil

/-- Gaps around an expression do not change it. -/
theorem Derives.surround {before text after : Text} {expression : Expression}
    (hbefore : Gap before) (derivation : Derives text (some expression)) (hafter : Gap after) :
    Derives (before ++ text ++ after) (some expression) := by
  cases derivation with
  | operand hlead argument htrail =>
      simpa only [List.append_assoc] using
        Derives.operand (hbefore.append hlead) argument (htrail.append hafter)
  | call hlead head positional tail htrail =>
      simpa only [List.append_assoc] using
        Derives.call (hbefore.append hlead) head positional tail (htrail.append hafter)

/-- Of the blanks around an expression only those of gaps are passed over. -/
theorem derives_surrounded_iff {before content after : Text} {expression : Expression}
    (hbefore : Blanks before) (trimmed : content.Trimmed) (hafter : Blanks after) :
    Derives (before ++ content ++ after) (some expression) ↔
      Gap before ∧ Derives content (some expression) ∧ Gap after := by
  constructor
  · intro derivation
    obtain ⟨lead, core, trail, htext, hlead, htrail, hcore, hderives⟩ := derivation.exists_core
    -- both ways to cut the text leave the same trimmed text
    have hfirst := trimmed.trim_append hbefore hafter
    have hsecond := hcore.trim_append hlead.blanks htrail.blanks
    rw [htext] at hfirst
    obtain rfl : before = lead := hfirst.1.symm.trans hsecond.1
    obtain rfl : content = core := hfirst.2.symm.trans hsecond.2
    obtain rfl : after = trail := List.append_cancel_left htext
    exact ⟨hlead, hderives, htrail⟩
  · rintro ⟨hlead, derivation, htrail⟩
    exact derivation.surround hlead htrail

end Grammar

/-! ## What blocks are made from -/

/-- Whether a variable has a name that can be written, and a call the text that it was read from.
What texts and literals show need not be what they were read from. -/
def Block.Legible : Block → Prop
  | .var name => Name name
  | .call content c => content.Trimmed ∧ Derives content (some (.call c))
  | _ => True

theorem Block.Legible.ofExpression {content : Text} {expression : Expression}
    (trimmed : content.Trimmed) (derivation : Derives content (some expression)) :
    (Block.ofExpression content expression).Legible := by
  cases expression with
  | call call => exact ⟨trimmed, derivation⟩
  | operand operand =>
      cases derivation with
      | operand _ argument _ =>
          cases argument with
          | literal => trivial
          | var hname => exact hname

namespace Piece

variable {inlineVariables : Bool}

theorem legible_of_ofInterior {start : Nat} {interior : Text} {block : Block}
    (h : ofInterior start interior = .ok (.block block)) : block.Legible := by
  obtain ⟨expression, hread, hpiece⟩ := Result.bind_eq_ok.mp h
  cases expression with
  | none =>
      cases hpiece
      trivial
  | some expression =>
      cases hpiece
      have hne : interior.trim ≠ [] := by
        intro hnil
        rw [hnil, Expression.readAt_nil] at hread
        cases hread
      exact .ofExpression (Text.trimmed_trim hne) (Expression.readAt_eq_ok.mp hread)

theorem legible_of_mem_ofRegion {start : Nat} {region : Region} {pieces : List Piece}
    (h : ofRegion inlineVariables start region = .ok pieces) {block : Block}
    (hmem : .block block ∈ pieces) : block.Legible := by
  cases region with
  | plain text =>
      cases h
      cases inlineVariables with
      | false => simp at hmem
      | true =>
          obtain ⟨name, hname, rfl⟩ := exists_var_of_mem_inline hmem
          exact hname
  | abandoned text =>
      cases h
      simp at hmem
  | closed interior =>
      obtain ⟨piece, hpiece, h⟩ := Result.bind_eq_ok.mp h
      cases h
      obtain rfl := List.mem_singleton.mp hmem
      exact legible_of_ofInterior hpiece

theorem legible_of_mem_list {start : Nat} {regions : List Region} {pieces : List Piece}
    (h : list inlineVariables start regions = .ok pieces) :
    ∀ block, .block block ∈ pieces → block.Legible := by
  induction regions generalizing start pieces with
  | nil =>
      cases h
      simp
  | cons region regions ih =>
      obtain ⟨first, rest, hfirst, hrest, rfl⟩ := list_cons_eq_ok.mp h
      intro block hmem
      rcases List.mem_append.mp hmem with hmem | hmem
      · exact legible_of_mem_ofRegion hfirst hmem
      · exact ih hrest block hmem

end Piece

/-! ## Templates -/

namespace Template

variable {inlineVariables : Bool}

theorem legible_of_mem_read {template : Text} {blocks : List Block}
    (h : read inlineVariables template = .ok blocks) : ∀ block ∈ blocks, block.Legible := by
  obtain ⟨pieces, hpieces, -, rfl⟩ := exists_of_read_eq_ok h
  exact Piece.forall_blocks (fun _ => trivial) (Piece.legible_of_mem_list hpieces)

/-- Whatever template they were read from, calls and variables are read again from what they show:
a call as an expression by itself, and either as the only block of a template, with any blanks
around it and whether or not text outside blocks has variables. -/
theorem blocks_read_again (inlineVariables : Bool) (template : Text) (blocks : List Block)
    (h : read inlineVariables template = .ok blocks) :
    (∀ content call, .call content call ∈ blocks →
      Expression.read content = .ok (some (.call call)) ∧
      ∀ other before after, Blanks before → Blanks after →
        read other (opener ++ (before ++ content ++ after) ++ closer) =
          .ok [.call content call]) ∧
    ∀ name, .var name ∈ blocks →
      Expression.read (Block.var name).content = .ok (some (.operand (.var name))) ∧
      ∀ other before after, Blanks before → Blanks after →
        read other (opener ++ (before ++ (Block.var name).content ++ after) ++ closer) =
          .ok [.var name] := by
  constructor
  · intro content call hmem
    obtain ⟨trimmed, derivation⟩ := legible_of_mem_read h _ hmem
    refine ⟨Expression.readAt_eq_ok.mpr derivation, ?_⟩
    intro other before after hbefore hafter
    exact read_block hbefore derivation trimmed hafter
  · intro name hmem
    have hname : Name name := legible_of_mem_read h _ hmem
    have argument := Argument.var hname
    refine ⟨Expression.readAt_eq_ok.mpr argument.derives, ?_⟩
    intro other before after hbefore hafter
    exact read_block hbefore argument.derives argument.trimmed hafter

/-- The call and the second variable of `{{ f 'a}}' }}$b{{$1}}`, put between other blanks. -/
theorem blocks_read_again_mixed : ∃ content call,
    content = "f 'a\x7d\x7d'".toList ∧
    call = ⟨⟨none, ['f']⟩, some (.literal ⟨.single, "a\x7d\x7d".toList⟩), []⟩ ∧
    read true (opener ++ [' '] ++ content ++ [' '] ++ closer ++ "$b\x7b\x7b$1\x7d\x7d".toList) =
      .ok [.call content call, .var ['b'], .var ['1']] ∧
    Expression.read content = .ok (some (.call call)) ∧
    read false (opener ++ (['\u00a0', '\t'] ++ content ++ ['\u2003']) ++ closer) =
      .ok [.call content call] ∧
    read false (opener ++ ([] ++ ['$', '1'] ++ ['\n']) ++ closer) = .ok [.var ['1']] := by
  have hread : read true (opener ++ [' '] ++ "f 'a\x7d\x7d'".toList ++ [' '] ++ closer ++
      "$b\x7b\x7b$1\x7d\x7d".toList) = .ok [.call "f 'a\x7d\x7d'".toList
        ⟨⟨none, ['f']⟩, some (.literal ⟨.single, "a\x7d\x7d".toList⟩), []⟩,
        .var ['b'], .var ['1']] := by
    decide +kernel
  obtain ⟨hcalls, hvars⟩ := blocks_read_again true _ _ hread
  obtain ⟨halone, hcall⟩ := hcalls _ _ List.mem_cons_self
  obtain ⟨-, hvar⟩ := hvars ['1'] (by simp)
  refine ⟨_, _, rfl, rfl, hread, halone, hcall false _ _ ?_ ?_, hvar false _ _ ?_ ?_⟩ <;> decide

/-! ## The inside of a block by itself -/

/-- A template that is one block of an expression has that expression and blanks between its
braces. -/
theorem exists_content_of_read {interior : Text} {block : Block}
    (h : read inlineVariables (opener ++ interior ++ closer) = .ok [block])
    (hblock : ∀ text, block ≠ .text text) :
    ∃ before content after expression, interior = before ++ content ++ after ∧
      Blanks before ∧ content.Trimmed ∧ Blanks after ∧ Derives content (some expression) ∧
      block = .ofExpression content expression := by
  have legible := legible_of_mem_read h block List.mem_cons_self
  obtain ⟨⟨segments, hsegments, hflatten⟩, -⟩ := cover_read h
  cases hsegments with
  | cons segment hnil =>
      cases hnil
      rw [List.flatten_singleton] at hflatten
      have hinside {inside : Text} (h : opener ++ inside ++ closer = opener ++ interior ++ closer) :
          interior = inside := by simpa using h.symm
      cases segment with
      | text => exact absurd rfl (hblock _)
      | inline => simp [opener] at hflatten
      | var hbefore hname hafter =>
          have argument := Argument.var hname
          exact ⟨_, _, _, _, hinside hflatten, hbefore, argument.trimmed, hafter,
            argument.derives, rfl⟩
      | literal hbefore inside hafter =>
          have argument := Argument.literal inside
          exact ⟨_, _, _, _, hinside hflatten, hbefore, argument.trimmed, hafter,
            argument.derives, rfl⟩
      | call hbefore derivation hafter =>
          exact ⟨_, _, _, _, hinside hflatten, hbefore, legible.1, hafter, derivation, rfl⟩

/-- Read by itself, the inside of a block of an expression makes that same expression, or is
refused: which of the two is decided by the blanks at its ends, that have to be those of gaps. -/
theorem interior_read_alone (inlineVariables : Bool) (interior : Text) (block : Block)
    (h : read inlineVariables (opener ++ interior ++ closer) = .ok [block])
    (hblock : ∀ text, block ≠ .text text) :
    ∃ before content after expression, interior = before ++ content ++ after ∧
      Blanks before ∧ content.Trimmed ∧ Blanks after ∧
      block = .ofExpression content expression ∧
      (Expression.read interior = .ok (some expression) ↔ Gap before ∧ Gap after) ∧
      (¬ (Gap before ∧ Gap after) → ∃ error, Expression.read interior = .error error) := by
  obtain ⟨before, content, after, expression, rfl, hbefore, trimmed, hafter, derivation, hmade⟩ :=
    exists_content_of_read h hblock
  refine ⟨before, content, after, expression, rfl, hbefore, trimmed, hafter, hmade, ?_, ?_⟩
  · rw [Expression.read, Expression.readAt_eq_ok, derives_surrounded_iff hbefore trimmed hafter]
    simp [derivation]
  · intro hgaps
    cases hread : Expression.read (before ++ content ++ after) with
    | error error => exact ⟨error, rfl⟩
    | ok read? =>
        have hderives := Expression.readAt_eq_ok.mp hread
        cases read? with
        | none =>
            -- a gap would have no place for the content
            have hgap := hderives.gap.blanks
            obtain ⟨c, rest, rfl⟩ := List.exists_cons_of_ne_nil trimmed.ne_nil
            have hblank : Text.isBlank c = true := hgap c (by simp)
            rw [trimmed.first c rfl] at hblank
            cases hblank
        | some other =>
            obtain ⟨hlead, -, htrail⟩ := (derives_surrounded_iff hbefore trimmed hafter).mp hderives
            exact absurd ⟨hlead, htrail⟩ hgaps

/-- A tab in front of a variable can be passed over by itself, a no-break space behind it
cannot. -/
theorem interior_read_alone_tab : ∃ (interior : Text) (block : Block),
    interior = ['\t', '$', 'a', '\u00a0'] ∧ block = .var ['a'] ∧
    read false (opener ++ interior ++ closer) = .ok [block] ∧ (∀ text, block ≠ .text text) ∧
    ∃ before content after expression, interior = before ++ content ++ after ∧
      Blanks before ∧ content.Trimmed ∧ Blanks after ∧
      block = .ofExpression content expression ∧
      (Expression.read interior = .ok (some expression) ↔ Gap before ∧ Gap after) ∧
      (¬ (Gap before ∧ Gap after) → ∃ error, Expression.read interior = .error error) := by
  have hread : read false (opener ++ ['\t', '$', 'a', '\u00a0'] ++ closer) = .ok [.var ['a']] := by
    decide +kernel
  have hblock (text : Text) : Block.var ['a'] ≠ .text text := by simp
  exact ⟨_, _, rfl, rfl, hread, hblock, interior_read_alone false _ _ hread hblock⟩

/-- The inside of `{{\u00a0$a}}` makes a variable there and is refused by itself, for a no-break
space is a blank but stands in no gap. -/
theorem blank_refused_alone :
    read true (opener ++ ['\u00a0', '$', 'a'] ++ closer) = .ok [.var ['a']] ∧
    Expression.read ['\u00a0', '$', 'a'] = .error ⟨.notSeparated, ⟨2, 2⟩⟩ := by
  decide +kernel

end Template

end Stencil
