import Mathlib.Data.List.TakeWhile
import Stencil.Proofs.Expression.Reading
import Stencil.Proofs.Text.Blank
import Stencil.Template.Reader

/-! # Pieces of a template

What is read from the inside of a closed block, the names of variables outside blocks, what
blocks keep of the pieces that they are joined from, and what comes of a template in the end.
-/

namespace Stencil

open Grammar

theorem Text.isBlank_of_separator {c : Char} (hc : Separator c) : Text.isBlank c = true := by
  rcases hc with rfl | rfl | rfl | rfl <;> rfl

/-- Of the trimmed texts only the empty one holds no expression. -/
theorem Expression.trim_eq_nil {start : Nat} {text : Text}
    (h : Expression.readAt start text.trim = .ok none) : text.trim = [] := by
  have hgap := (readAt_eq_ok.mp h).gap
  exact Text.trim_eq_nil_of_blanks fun c hc => Text.isBlank_of_separator (hgap c hc)

theorem Expression.readAt_nil (start : Nat) : Expression.readAt start [] = .ok none :=
  readAt_eq_ok.mpr (.blank .nil)

theorem Grammar.Gap.blanks {gap : Text} (hgap : Gap gap) : Text.Blanks gap :=
  fun c hc => Text.isBlank_of_separator (hgap c hc)

theorem isNameChar_of_isNameStart {c : Char} (hc : isNameStart c = true) :
    isNameChar c = true := by
  rw [isNameStart, Bool.or_eq_true_iff] at hc
  rw [isNameChar, Char.isAlphanum, Bool.or_eq_true_iff, Bool.or_eq_true_iff]
  exact hc.imp_left .inl

namespace Piece

theorem startsName_eq (text : Text) : startsName text = text.head?.any isNameStart := by
  cases text <;> rfl

theorem takeWhile_of_startsName {text : Text} (hstart : startsName text = true) :
    ∃ c rest, isNameStart c = true ∧ text.takeWhile isNameChar = c :: rest := by
  cases text with
  | nil => cases hstart
  | cons c rest =>
      exact ⟨c, _, hstart, List.takeWhile_cons_of_pos (isNameChar_of_isNameStart hstart)⟩

/-- Where a name starts, the characters that can go on with it make a name. -/
theorem name_takeWhile {text : Text} (hstart : startsName text = true) :
    Name (text.takeWhile isNameChar) := by
  obtain ⟨c, rest, -, htake⟩ := takeWhile_of_startsName hstart
  refine ⟨htake ▸ List.cons_ne_nil c rest, fun d hd => ?_⟩
  exact isNameChar_iff.mp (List.mem_takeWhile_imp hd)

/-- The pieces of some regions are those of the first one and then those of the others. -/
theorem list_cons_eq_ok {inlineVariables : Bool} {start : Nat} {region : Region}
    {regions : List Region} {pieces : List Piece} :
    list inlineVariables start (region :: regions) = .ok pieces ↔
      ∃ first rest, ofRegion inlineVariables start region = .ok first ∧
        list inlineVariables (start + region.source.byteLength) regions = .ok rest ∧
        pieces = first ++ rest := by
  rw [list]
  constructor
  · intro h
    obtain ⟨first, hfirst, h⟩ := Result.bind_eq_ok.mp h
    obtain ⟨rest, hrest, h⟩ := Result.bind_eq_ok.mp h
    cases h
    exact ⟨first, rest, hfirst, hrest, rfl⟩
  · rintro ⟨first, rest, hfirst, hrest, rfl⟩
    rw [hfirst, hrest]
    rfl

/-! ## Joining -/

/-- The block that a piece makes where nothing is joined to it. -/
def alone : Piece → Block
  | .text t => .text t
  | .block b => b

/-- What is gathered from blocks is gathered from the pieces that they are joined from, if it does
not matter for it whether texts are joined. -/
theorem flatMap_blocks {α : Type} {f : Block → List α} (hnil : f (.text []) = [])
    (happend : ∀ first second, f (.text (first ++ second)) = f (.text first) ++ f (.text second))
    (pieces : List Piece) :
    (blocks pieces).flatMap f = pieces.flatMap fun piece => f piece.alone := by
  have hlead (lead : Text) (rest : List Block) :
      (withLead lead rest).flatMap f = f (.text lead) ++ rest.flatMap f := by
    cases lead with
    | nil =>
        rw [hnil]
        rfl
    | cons c lead => rfl
  rw [blocks, hlead]
  induction pieces with
  | nil =>
      rw [joined, hnil]
      rfl
  | cons piece rest ih =>
      rw [List.flatMap_cons, ← ih]
      cases piece with
      | text text =>
          rw [joined, happend]
          exact List.append_assoc _ _ _
      | block block =>
          rw [joined, hnil, List.nil_append, List.flatMap_cons, hlead]
          rfl

/-- What holds of text and of all blocks among some pieces holds of the blocks they join to. -/
theorem forall_blocks {p : Block → Prop} (htext : ∀ text, p (.text text)) {pieces : List Piece}
    (hpieces : ∀ block, .block block ∈ pieces → p block) : ∀ block ∈ blocks pieces, p block := by
  have hlead (lead : Text) {rest : List Block} (hrest : ∀ block ∈ rest, p block) :
      ∀ block ∈ withLead lead rest, p block := by
    rw [withLead]
    split
    next => exact hrest
    next => exact List.forall_mem_cons.mpr ⟨htext lead, hrest⟩
  apply hlead
  induction pieces with
  | nil => exact List.forall_mem_nil p
  | cons piece rest ih =>
      have hrest := ih fun block hblock => hpieces block (List.mem_cons_of_mem _ hblock)
      cases piece with
      | text text => exact hrest
      | block block =>
          exact List.forall_mem_cons.mpr
            ⟨hpieces block List.mem_cons_self, hlead (joined rest).1 hrest⟩

end Piece

namespace Template

variable {inlineVariables : Bool} {template : Text}

theorem read_of_error {error : ParseError}
    (h : Piece.list inlineVariables 0 (Regions.ofTemplate template).regions = .error error) :
    read inlineVariables template = .error ⟨template, error⟩ := by
  rw [read, ofRegions, h]
  rfl

theorem read_of_closed {pieces : List Piece}
    (h : Piece.list inlineVariables 0 (Regions.ofTemplate template).regions = .ok pieces)
    (hclosed : (Regions.ofTemplate template).unclosed = none) :
    read inlineVariables template = .ok (Piece.blocks pieces) := by
  rw [read, ofRegions, h, hclosed]
  rfl

theorem read_of_unclosed {pieces : List Piece} {rest : Unclosed}
    (h : Piece.list inlineVariables 0 (Regions.ofTemplate template).regions = .ok pieces)
    (hrest : (Regions.ofTemplate template).unclosed = some rest) :
    read inlineVariables template = .error ⟨template, rest.cause,
      Text.byteLength ((Regions.ofTemplate template).regions.flatMap Region.source),
      rest.source.byteLength⟩ := by
  rw [read, ofRegions, h, hrest]
  rfl

theorem exists_of_read_eq_ok {blocks : List Block}
    (h : read inlineVariables template = .ok blocks) :
    ∃ pieces, Piece.list inlineVariables 0 (Regions.ofTemplate template).regions = .ok pieces ∧
      (Regions.ofTemplate template).unclosed = none ∧ blocks = Piece.blocks pieces := by
  obtain ⟨pieces, hpieces, hblocks⟩ := Result.bind_eq_ok.mp (Result.mapError_eq_ok.mp h)
  refine ⟨pieces, hpieces, ?_⟩
  cases hunclosed : (Regions.ofTemplate template).unclosed with
  | some rest =>
      rw [hunclosed] at hblocks
      cases hblocks
  | none =>
      rw [hunclosed] at hblocks
      cases hblocks
      exact ⟨rfl, rfl⟩

end Template

end Stencil
