import Stencil.Proofs.Expression.Places
import Stencil.Proofs.Template.Cutting

/-! # Blocks of a template cut in two

At a safe cut the blocks of a template are those of its two parts, up to text at the cut
that becomes one block. A fault of the second part is the fault of the whole, as many bytes
further on as the first part has.
-/

namespace Stencil

open Grammar

namespace Piece

theorem ofInterior_shift (count start : Nat) (interior : Text) :
    ofInterior (count + start) interior =
      (ofInterior start interior).mapError (ParseError.shift count) := by
  rw [ofInterior, ofInterior, Nat.add_assoc, Expression.readAt_shift]
  cases Expression.readAt (start + (Text.leadingBlanks interior).byteLength) interior.trim with
  | error error => rfl
  | ok expression => cases expression <;> rfl

theorem ofRegion_shift (inlineVariables : Bool) (count start : Nat) (region : Region) :
    ofRegion inlineVariables (count + start) region =
      (ofRegion inlineVariables start region).mapError (ParseError.shift count) := by
  cases region with
  | plain text => rfl
  | abandoned text => rfl
  | closed interior =>
      rw [ofRegion, ofRegion, Nat.add_assoc, ofInterior_shift]
      cases ofInterior (start + opener.byteLength) interior <;> rfl

/-- Regions behind `count` more bytes make the same pieces, or meet the same fault there. -/
theorem list_shift (inlineVariables : Bool) (count start : Nat) (regions : List Region) :
    list inlineVariables (count + start) regions =
      (list inlineVariables start regions).mapError (ParseError.shift count) := by
  induction regions generalizing start with
  | nil => rfl
  | cons region rest ih =>
      rw [list, list, ofRegion_shift, Nat.add_assoc, ih]
      cases ofRegion inlineVariables start region with
      | error error => rfl
      | ok first =>
          cases list inlineVariables (start + region.source.byteLength) rest <;> rfl

/-- The pieces of a stretch of text. -/
def ofPlain (inlineVariables : Bool) (text : Text) : List Piece :=
  if inlineVariables then inline text else [.text text]

theorem list_plain (inlineVariables : Bool) (start : Nat) (text : Text) (rest : List Region) :
    list inlineVariables start (.plain text :: rest) =
      (list inlineVariables (start + text.byteLength) rest).map
        (ofPlain inlineVariables text ++ ·) := by
  rw [list, Region.source]
  cases list inlineVariables (start + text.byteLength) rest <;> rfl

/-- The pieces of regions are those of the regions in front and of those behind them. -/
theorem list_append (inlineVariables : Bool) (start : Nat) (first second : List Region) :
    list inlineVariables start (first ++ second) =
      (list inlineVariables start first >>= fun pieces =>
        (list inlineVariables (start + Text.byteLength (first.flatMap Region.source)) second).map
          (pieces ++ ·)) := by
  induction first generalizing start with
  | nil =>
      rw [List.nil_append, list, List.flatMap_nil, Text.byteLength_nil, Nat.add_zero]
      cases list inlineVariables start second <;> rfl
  | cons region rest ih =>
      rw [List.cons_append, list, list, ih, List.flatMap_cons, Text.byteLength_append,
        Nat.add_assoc]
      generalize Text.byteLength (rest.flatMap Region.source) = width
      cases ofRegion inlineVariables start region with
      | error error => rfl
      | ok pieces =>
          cases list inlineVariables (start + region.source.byteLength) rest with
          | error error => rfl
          | ok others =>
              cases list inlineVariables (start + (region.source.byteLength + width)) second with
              | error error => rfl
              | ok more => exact congrArg Except.ok (List.append_assoc pieces others more).symm

theorem joined_congr {pieces more : List Piece} (h : joined pieces = joined more)
    (front : List Piece) : joined (front ++ pieces) = joined (front ++ more) := by
  induction front with
  | nil => exact h
  | cons piece front ih => cases piece <;> simp only [List.cons_append, joined, ih]

/-- Pieces come to the same blocks whether text is cut or not, if the cut is a safe one. -/
theorem joined_ofPlain_append (inlineVariables : Bool) {first second : Text}
    (hcut : ¬ (first.EndsInName ∧ ∃ c ∈ second.head?, NameChar c)) (rest : List Piece) :
    joined (ofPlain inlineVariables (first ++ second) ++ rest) =
      joined (ofPlain inlineVariables first ++ (ofPlain inlineVariables second ++ rest)) := by
  cases inlineVariables with
  | true =>
      simp only [ofPlain, if_true, inline_append hcut, List.append_assoc]
  | false => simp [ofPlain, joined]

/-- Pieces are taken one after another, whatever comes behind them. -/
theorem exists_taken (pieces : List Piece) (state : Scanner.State) :
    ∃ next : Scanner.State, ∀ more,
      state.blocks ++ withLead (state.pending ++ (joined (pieces ++ more)).1)
          (joined (pieces ++ more)).2 =
        next.blocks ++ withLead (next.pending ++ (joined more).1) (joined more).2 := by
  induction pieces generalizing state with
  | nil => exact ⟨state, fun more => rfl⟩
  | cons piece pieces ih =>
      obtain ⟨next, hnext⟩ := ih (state.take piece 0)
      refine ⟨next, fun more => ?_⟩
      rw [List.cons_append, ← state.take_blocks piece 0, hnext]

end Piece

/-- The blocks of two texts one behind the other: those of the first and then those of the second,
or with the text at the cut in one block. -/
inductive Block.Joins : List Block → List Block → List Block → Prop where
  | apart (first second : List Block) : Joins first second (first ++ second)
  | merged (before : List Block) (last front : Text) (after : List Block) :
      Joins (before ++ [.text last]) (.text front :: after)
        (before ++ .text (last ++ front) :: after)

/-- Pieces in two lists come to blocks that join to those of both lists together. -/
theorem Piece.joins_blocks (pieces more : List Piece) :
    Block.Joins (blocks pieces) (blocks more) (blocks (pieces ++ more)) := by
  obtain ⟨state, hstate⟩ := exists_taken pieces .initial
  have hfirst : blocks pieces = state.flushed := by
    have h := hstate []
    rw [List.append_nil, joined, List.append_nil, state.withLead_flushed, List.append_nil] at h
    exact h
  have hjoint : blocks (pieces ++ more) =
      state.blocks ++ withLead (state.pending ++ (joined more).1) (joined more).2 := hstate more
  rw [hfirst, hjoint, blocks]
  generalize (joined more).1 = front
  generalize (joined more).2 = after
  by_cases hpending : state.pending = []
  · rw [Scanner.State.flushed, if_pos hpending, hpending, List.nil_append]
    exact .apart state.blocks (withLead front after)
  · by_cases hfront : front = []
    · rw [hfront, List.append_nil, state.withLead_flushed]
      exact .apart state.flushed after
    · have hlead {text : Text} (hne : text ≠ []) : withLead text after = .text text :: after := by
        simp [withLead, hne]
      rw [Scanner.State.flushed, if_neg hpending, hlead hfront, hlead (by simp [hpending])]
      exact .merged state.blocks state.pending front after

/-- The pieces of two texts one behind the other come to the same blocks as those of each. -/
theorem Piece.map_joined_list {inlineVariables : Bool} {done rest : List Region}
    {last front : Text} {pieces : List Piece}
    (hcut : ¬ (last.EndsInName ∧ ∃ c ∈ front.head?, NameChar c))
    (hpieces : list inlineVariables 0 (done ++ [.plain last]) = .ok pieces) :
    (list inlineVariables 0 (done ++ .plain (last ++ front) :: rest)).map joined =
      (list inlineVariables (Text.byteLength (done.flatMap Region.source) + last.byteLength)
        (.plain front :: rest)).map fun more => joined (pieces ++ more) := by
  rw [list_append] at hpieces
  obtain ⟨first, hfirst, hpieces⟩ := Result.bind_eq_ok.mp hpieces
  rw [list_plain, list] at hpieces
  cases hpieces
  rw [list_append, hfirst, list_plain, list_plain, Text.byteLength_append, Nat.zero_add,
    ← Nat.add_assoc]
  cases list inlineVariables (Text.byteLength (done.flatMap Region.source) + last.byteLength +
      front.byteLength) rest with
  | error error => rfl
  | ok more =>
      have hjoint := joined_congr (joined_ofPlain_append inlineVariables hcut more) first
      rw [← List.append_assoc first (ofPlain inlineVariables last)] at hjoint
      simp only [List.append_nil]
      exact congrArg Except.ok hjoint

/-- The regions of two texts one behind the other, as far as reading goes: their pieces, what is
unclosed, and how far the regions go. -/
theorem Piece.list_ofTemplate_append {inlineVariables : Bool} {first second : Text}
    {pieces : List Piece}
    (hpieces : list inlineVariables 0 (Regions.ofTemplate first).regions = .ok pieces)
    (hclosed : (Regions.ofTemplate first).unclosed = none) (hcut : first.SafeCut second) :
    (list inlineVariables 0 (Regions.ofTemplate (first ++ second)).regions).map joined =
      ((list inlineVariables 0 (Regions.ofTemplate second).regions).mapError
        (ParseError.shift first.byteLength)).map (fun more => joined (pieces ++ more)) ∧
    (Regions.ofTemplate (first ++ second)).unclosed = (Regions.ofTemplate second).unclosed ∧
    Text.byteLength ((Regions.ofTemplate (first ++ second)).regions.flatMap Region.source) =
      first.byteLength +
        Text.byteLength ((Regions.ofTemplate second).regions.flatMap Region.source) := by
  obtain ⟨done, last, front, cut, hfirst, hsecond, hjoint, hname⟩ :=
    Regions.exists_append hclosed hcut
  have hlength : first.byteLength =
      Text.byteLength (done.flatMap Region.source) + last.byteLength := by
    have hsource := Regions.source_ofTemplate first
    rw [hfirst] at hsource
    simp [← hsource, Regions.source, Region.source]
  rw [hfirst] at hpieces
  rw [hjoint, hsecond]
  refine ⟨?_, rfl, ?_⟩
  · rw [Piece.map_joined_list hname hpieces, ← Piece.list_shift, Nat.add_zero, hlength]
    rfl
  · simp [Regions.after, Region.source, hlength]
    omega

namespace Template

/-- At a safe cut a template comes to the blocks of its two parts, text at the cut joined; where
the second part is refused, the template is refused for the same cause at its place. -/
theorem read_append {inlineVariables : Bool} {first second : Text} {blocks : List Block}
    (hfirst : read inlineVariables first = .ok blocks) (hcut : first.SafeCut second) :
    (∀ more, read inlineVariables second = .ok more →
      ∃ joint, read inlineVariables (first ++ second) = .ok joint ∧
        Block.Joins blocks more joint) ∧
    ∀ refusal, read inlineVariables second = .error refusal →
      read inlineVariables (first ++ second) =
        .error ⟨first ++ second, refusal.error.shift first.byteLength⟩ := by
  obtain ⟨pieces, hpieces, hclosed, rfl⟩ := exists_of_read_eq_ok hfirst
  obtain ⟨hlist, hunclosed, hlength⟩ := Piece.list_ofTemplate_append hpieces hclosed hcut
  cases hsecond : Piece.list inlineVariables 0 (Regions.ofTemplate second).regions with
  | error error =>
      rw [hsecond] at hlist
      have hjoint : Piece.list inlineVariables 0 (Regions.ofTemplate (first ++ second)).regions =
          .error (error.shift first.byteLength) := Result.map_eq_error.mp hlist
      rw [read_of_error hsecond, read_of_error hjoint]
      refine ⟨nofun, fun refusal hrefusal => ?_⟩
      cases hrefusal
      rfl
  | ok more =>
      rw [hsecond] at hlist
      obtain ⟨joint, hjoint, hjoined⟩ := Result.map_eq_ok.mp hlist
      cases hrest : (Regions.ofTemplate second).unclosed with
      | none =>
          rw [hrest] at hunclosed
          rw [read_of_closed hsecond hrest, read_of_closed hjoint hunclosed]
          refine ⟨fun blocks hblocks => ?_, nofun⟩
          cases hblocks
          have hblocks : Piece.blocks joint = Piece.blocks (pieces ++ more) :=
            congrArg (fun parts : Text × List Block => Piece.withLead parts.1 parts.2) hjoined
          rw [hblocks]
          exact ⟨_, rfl, Piece.joins_blocks pieces more⟩
      | some rest =>
          rw [hrest] at hunclosed
          rw [read_of_unclosed hsecond hrest, read_of_unclosed hjoint hunclosed, hlength]
          refine ⟨nofun, fun refusal hrefusal => ?_⟩
          cases hrefusal
          rfl

end Template

end Stencil
