import Mathlib.Data.List.Chain
import Mathlib.Data.List.Forall2
import Stencil.Proofs.Template.Pieces

/-! # The blocks of a template cover it

Every block of a template stands for one segment of it, and the segments laid end to
end are the template. Texts are joined as they are met, so that two of them are
neighbours only where a block that holds nothing but blanks was kept as text.
-/

namespace Stencil

open Grammar
open Text (Blanks)

/-- A segment of a template and the block that stands for it. -/
inductive Segment (inlineVariables : Bool) : Text → Block → Prop where
  | text {text : Text} (hne : text ≠ []) : Segment inlineVariables text (.text text)
  | inline {name : Text} (hon : inlineVariables = true) (hname : Name name) :
      Segment inlineVariables ('$' :: name) (.var name)
  | var {before name after : Text} (hbefore : Blanks before) (hname : Name name)
      (hafter : Blanks after) :
      Segment inlineVariables (opener ++ (before ++ '$' :: name ++ after) ++ closer) (.var name)
  | literal {before source value after : Text} {quote : Quote} (hbefore : Blanks before)
      (inside : Inside quote source value) (hafter : Blanks after) :
      Segment inlineVariables
        (opener ++ (before ++ (quote.char :: source ++ [quote.char]) ++ after) ++ closer)
        (.literal ⟨quote, value⟩)
  | call {before content after : Text} {call : Call} (hbefore : Blanks before)
      (derivation : Derives content (some (.call call))) (hafter : Blanks after) :
      Segment inlineVariables (opener ++ (before ++ content ++ after) ++ closer)
        (.call content call)

/-- The text of a block that holds nothing but blanks. -/
def KeptBlank (text : Text) : Prop := ∃ blanks, Blanks blanks ∧ text = opener ++ blanks ++ closer

/-- A block that is no text, or the text of a kept block. -/
def Block.Settled (block : Block) : Prop := ∀ text, block = .text text → KeptBlank text

/-- Of two texts, one is a kept block. -/
def Block.Apart (first second : Block) : Prop :=
  ∀ left right, first = .text left → second = .text right → KeptBlank left ∨ KeptBlank right

theorem Segment.ne_nil {inlineVariables : Bool} {text : Text} {block : Block}
    (segment : Segment inlineVariables text block) : text ≠ [] := by
  cases segment with
  | text hne => exact hne
  | inline => exact List.cons_ne_nil _ _
  | var => exact List.cons_ne_nil _ _
  | literal => exact List.cons_ne_nil _ _
  | call => exact List.cons_ne_nil _ _

theorem Segment.text_ne_nil {inlineVariables : Bool} {source : Text} {block : Block}
    (segment : Segment inlineVariables source block) (text : Text) (htext : block = .text text) :
    text ≠ [] := by
  cases segment with
  | text hne =>
      cases htext
      exact hne
  | _ => cases htext

section

variable {inlineVariables : Bool}

/-- A block that holds an argument, blanks around it included. -/
theorem Segment.ofOperand {before source after : Text} {operand : Operand}
    (hbefore : Blanks before) (argument : Argument source operand) (hafter : Blanks after) :
    Segment inlineVariables (opener ++ (before ++ source ++ after) ++ closer)
      (.ofOperand operand) := by
  cases argument with
  | literal inside => exact .literal hbefore inside hafter
  | var hname => exact .var hbefore hname hafter

/-- A block that holds an expression, blanks around it included. -/
theorem Segment.ofExpression {before content after : Text} {expression : Expression}
    (hbefore : Blanks before) (derivation : Derives content (some expression))
    (hafter : Blanks after) :
    Segment inlineVariables (opener ++ (before ++ content ++ after) ++ closer)
      (.ofExpression content expression) := by
  cases expression with
  | call call => exact .call hbefore derivation hafter
  | operand operand =>
      cases derivation with
      | @operand lead source trail _ hlead argument htrail =>
          have hsegment : Segment inlineVariables _ _ :=
            .ofOperand (hbefore.append hlead.blanks) argument (htrail.blanks.append hafter)
          simp only [List.append_assoc] at hsegment ⊢
          exact hsegment

end

theorem Block.Settled.ofExpression (content : Text) (expression : Expression) :
    (Block.ofExpression content expression).Settled := by
  intro text htext
  cases expression with
  | call call => cases htext
  | operand operand => cases operand <;> cases htext

/-! ## Pieces -/

/-- A stretch of a template and the piece made of it. -/
inductive Piece.Covers (inlineVariables : Bool) : Text → Piece → Prop where
  | text (text : Text) : Covers inlineVariables text (.text text)
  | block {text : Text} {block : Block} (segment : Segment inlineVariables text block)
      (settled : block.Settled) : Covers inlineVariables text (.block block)

/-- Pieces and the template that they were made of. -/
def Piece.Cover (inlineVariables : Bool) (template : Text) (pieces : List Piece) : Prop :=
  ∃ sources, List.Forall₂ (Piece.Covers inlineVariables) sources pieces ∧
    sources.flatten = template

namespace Piece

variable {inlineVariables : Bool}

theorem Cover.nil : Cover inlineVariables [] [] :=
  ⟨[], .nil, rfl⟩

theorem Cover.cons {source rest : Text} {piece : Piece} {pieces : List Piece}
    (covers : Covers inlineVariables source piece) (cover : Cover inlineVariables rest pieces) :
    Cover inlineVariables (source ++ rest) (piece :: pieces) := by
  obtain ⟨sources, hcovers, rfl⟩ := cover
  exact ⟨source :: sources, .cons covers hcovers, List.flatten_cons⟩

theorem Cover.append {first rest : Text} {pieces more : List Piece}
    (hfirst : Cover inlineVariables first pieces) (hrest : Cover inlineVariables rest more) :
    Cover inlineVariables (first ++ rest) (pieces ++ more) := by
  obtain ⟨sources, hcovers, rfl⟩ := hfirst
  obtain ⟨others, hothers, rfl⟩ := hrest
  exact ⟨sources ++ others, List.rel_append hcovers hothers, List.flatten_append⟩

theorem Cover.single {source : Text} {piece : Piece}
    (covers : Covers inlineVariables source piece) : Cover inlineVariables source [piece] :=
  ⟨[source], .cons covers .nil, List.flatten_singleton⟩

/-- Inline variables and the text around them cover a text. -/
theorem cover_inline (text : Text) : Cover true text (inline text) := by
  fun_induction inline text with
  | case1 => exact .nil
  | case2 c rest h ih =>
      rw [Bool.and_eq_true_iff, beq_iff_eq] at h
      obtain ⟨rfl, hstart⟩ := h
      have hcover := Cover.cons (.block (.inline rfl (name_takeWhile hstart)) (by
        intro text htext
        cases htext)) ih
      rwa [List.cons_append, List.takeWhile_append_dropWhile] at hcover
  | case3 c rest h ih => exact .cons (.text [c]) ih

/-- A closed block covers its braces, the blanks next to them and what it holds. -/
theorem covers_ofInterior {start : Nat} {interior : Text} {piece : Piece}
    (h : ofInterior start interior = .ok piece) :
    Covers inlineVariables (opener ++ interior ++ closer) piece := by
  obtain ⟨expression, hread, hpiece⟩ := Result.bind_eq_ok.mp h
  have hbefore := Text.blanks_leadingBlanks interior
  obtain ⟨after, hinterior, hafter⟩ := Text.exists_trim interior
  cases expression with
  | none =>
      rw [Expression.trim_eq_nil hread, List.append_nil] at hinterior
      have hblanks : Blanks interior := by
        rw [hinterior]
        exact hbefore.append hafter
      cases hpiece
      refine .block (.text (List.cons_ne_nil _ _)) fun text htext => ?_
      cases htext
      exact ⟨interior, hblanks, rfl⟩
  | some expression =>
      cases hpiece
      have segment : Segment inlineVariables _ _ :=
        .ofExpression hbefore (Expression.readAt_eq_ok.mp hread) hafter
      rw [← hinterior] at segment
      exact .block segment (Block.Settled.ofExpression _ expression)

theorem cover_ofRegion {start : Nat} {region : Region} {pieces : List Piece}
    (h : ofRegion inlineVariables start region = .ok pieces) :
    Cover inlineVariables region.source pieces := by
  cases region with
  | plain text =>
      cases h
      cases inlineVariables with
      | false => exact .single (.text text)
      | true => exact cover_inline text
  | abandoned text =>
      cases h
      exact .single (.text text)
  | closed interior =>
      obtain ⟨piece, hpiece, h⟩ := Result.bind_eq_ok.mp h
      cases h
      exact .single (covers_ofInterior hpiece)

/-- The pieces of the regions cover what the regions cover. -/
theorem cover_list {start : Nat} {regions : List Region} {pieces : List Piece}
    (h : list inlineVariables start regions = .ok pieces) :
    Cover inlineVariables (regions.flatMap Region.source) pieces := by
  induction regions generalizing start pieces with
  | nil =>
      cases h
      exact .nil
  | cons region regions ih =>
      obtain ⟨first, rest, hfirst, hrest, rfl⟩ := list_cons_eq_ok.mp h
      exact (cover_ofRegion hfirst).append (ih hrest)

end Piece

/-! ## Joining the text -/

/-- Blocks and the template that they stand for: one segment for each, and of two texts in a
row one is a kept block. -/
structure Block.Cover (inlineVariables : Bool) (template : Text) (blocks : List Block) : Prop where
  segments : ∃ segments, List.Forall₂ (Segment inlineVariables) segments blocks ∧
    segments.flatten = template
  apart : blocks.IsChain Block.Apart

namespace Piece

variable {inlineVariables : Bool}

/-- A text in front of blocks goes before them, unless it is empty. -/
theorem cover_withLead {lead template : Text} {blocks : List Block}
    (cover : Block.Cover inlineVariables template blocks)
    (settled : ∀ block ∈ blocks.head?, block.Settled) :
    Block.Cover inlineVariables (lead ++ template) (withLead lead blocks) := by
  obtain ⟨⟨segments, hsegments, rfl⟩, apart⟩ := cover
  cases lead with
  | nil => exact ⟨⟨segments, hsegments, rfl⟩, apart⟩
  | cons c rest =>
      refine ⟨⟨(c :: rest) :: segments, ?_, List.flatten_cons⟩, List.isChain_cons.mpr ⟨?_, apart⟩⟩
      · exact .cons (.text (List.cons_ne_nil c rest)) hsegments
      · intro block hblock left right _ hright
        exact .inr (settled block hblock right hright)

/-- The text that pieces start with and the blocks after it cover what the pieces cover. A text
block among the first of them is a kept one, for the text before it would have been joined. -/
theorem cover_joined {template : Text} {pieces : List Piece}
    (cover : Cover inlineVariables template pieces) :
    ∃ rest, template = (joined pieces).1 ++ rest ∧
      Block.Cover inlineVariables rest (joined pieces).2 ∧
      ∀ block ∈ (joined pieces).2.head?, block.Settled := by
  obtain ⟨sources, hcovers, rfl⟩ := cover
  induction hcovers with
  | nil => exact ⟨[], rfl, ⟨⟨[], .nil, rfl⟩, .nil⟩, fun _ hblock => by cases hblock⟩
  | @cons source piece sources pieces hcovers _ ih =>
      obtain ⟨rest, hrest, cover, settled⟩ := ih
      cases hcovers with
      | text =>
          refine ⟨rest, ?_, cover, settled⟩
          rw [List.flatten_cons, hrest, joined, List.append_assoc]
      | block segment hsettled =>
          obtain ⟨⟨segments, hsegments, hflatten⟩, apart⟩ := cover_withLead cover settled
          refine ⟨source ++ sources.flatten, rfl, ⟨⟨source :: segments, ?_, ?_⟩, ?_⟩, ?_⟩
          · exact .cons segment hsegments
          · rw [List.flatten_cons, hflatten, hrest]
          · refine List.isChain_cons.mpr ⟨fun next _ left right hleft _ => ?_, apart⟩
            exact .inl (hsettled left hleft)
          · rintro _ ⟨⟩
            exact hsettled

theorem cover_blocks {template : Text} {pieces : List Piece}
    (cover : Cover inlineVariables template pieces) :
    Block.Cover inlineVariables template (blocks pieces) := by
  obtain ⟨rest, rfl, cover, settled⟩ := cover_joined cover
  exact cover_withLead cover settled

end Piece

/-! ## Templates -/

namespace Template

/-- A template that can be read has no unclosed rest, and its blocks cover it. -/
theorem cover_read {inlineVariables : Bool} {template : Text} {blocks : List Block}
    (h : read inlineVariables template = .ok blocks) :
    Block.Cover inlineVariables template blocks := by
  obtain ⟨pieces, hpieces, hunclosed, rfl⟩ := exists_of_read_eq_ok h
  have hcover := Piece.cover_blocks (Piece.cover_list hpieces)
  have hsource := Regions.source_ofTemplate template
  rw [Regions.source, hunclosed] at hsource
  rw [← hsource]
  simpa using hcover

/-- Reading a template loses, repeats and moves nothing: its blocks stand for segments that,
laid end to end, are the template. No block is an empty text, and where two texts are
neighbours one of them is a block that holds nothing but blanks. -/
theorem segments_of_read (inlineVariables : Bool) (template : Text) (blocks : List Block)
    (h : read inlineVariables template = .ok blocks) :
    (∃ segments, List.Forall₂ (Segment inlineVariables) segments blocks ∧
      segments.flatten = template ∧ ∀ segment ∈ segments, segment ≠ []) ∧
    (∀ text, .text text ∈ blocks → text ≠ []) ∧
    ∀ first second, [.text first, .text second] <:+: blocks →
      KeptBlank first ∨ KeptBlank second := by
  obtain ⟨⟨segments, hsegments, hflatten⟩, apart⟩ := cover_read h
  refine ⟨⟨segments, hsegments, hflatten, ?_⟩, ?_, ?_⟩
  · have hne := hsegments.imp fun text block segment => And.intro segment.ne_nil segment
    exact ((List.forall₂_and_left _ _).mp hne).1
  · have hne : List.Forall₂ (fun block text => (∀ t, block = .text t → t ≠ []) ∧
        Segment inlineVariables text block) blocks segments :=
      (hsegments.imp fun text block segment => And.intro segment.text_ne_nil segment).flip
    intro text hmem
    exact ((List.forall₂_and_left _ _).mp hne).1 _ hmem text rfl
  · intro first second hinfix
    have hpair := List.IsChain.infix apart hinfix
    exact List.isChain_pair.mp hpair first second rfl rfl

/-- The template `a{{ {{ $x }}{{ }}b$y{{'q'}}{{ f 'v' }}` has a block begun anew, a kept block
beside text, and every kind of segment. -/
theorem segments_of_read_mixed : ∃ template blocks,
    template = "a\x7b\x7b \x7b\x7b $x \x7d\x7d".toList ++ opener ++ [' '] ++ closer ++
      "b$y\x7b\x7b'q'\x7d\x7d\x7b\x7b f 'v' \x7d\x7d".toList ∧
    blocks = [.text ('a' :: opener ++ [' ']), .var ['x'], .text (opener ++ [' '] ++ closer),
      .text ['b'], .var ['y'], .literal ⟨.single, ['q']⟩,
      .call "f 'v'".toList ⟨⟨none, ['f']⟩, some (.literal ⟨.single, ['v']⟩), []⟩] ∧
    read true template = .ok blocks ∧
    (∃ segments, List.Forall₂ (Segment true) segments blocks ∧
      segments.flatten = template ∧ ∀ segment ∈ segments, segment ≠ []) ∧
    (∀ text, .text text ∈ blocks → text ≠ []) ∧
    ∀ first second, [.text first, .text second] <:+: blocks →
      KeptBlank first ∨ KeptBlank second := by
  refine ⟨_, _, rfl, rfl, ?_, segments_of_read true _ _ ?_⟩ <;> decide +kernel

end Template

end Stencil
