import Stencil.Proofs.Template.Pieces
import Stencil.Template.Basic

/-! # Templates with a fault

A template has a fault when a block or a literal of it is never closed, or when some closed
block, wherever it stands, holds what is no expression. Just these templates are refused.
-/

namespace Stencil

open Grammar

/-- The inside of a closed block that is no expression. -/
def Faulty (interior : Text) : Prop := ∀ expression, ¬ Derives interior.trim expression

/-- A template that is not fully closed, or has a block that is no expression. -/
def Template.HasFault (template : Text) : Prop :=
  (Regions.ofTemplate template).unclosed ≠ none ∨
    ∃ interior, .closed interior ∈ (Regions.ofTemplate template).regions ∧ Faulty interior

namespace Piece

variable {inlineVariables : Bool} {start : Nat}

theorem ofInterior_eq_error {interior : Text} :
    (∃ error, ofInterior start interior = .error error) ↔ Faulty interior := by
  rw [Faulty, ← @Expression.readAt_eq_error (start + (Text.leadingBlanks interior).byteLength),
    ofInterior, Result.bind_eq_error]
  refine ⟨fun h => ?_, Or.inl⟩
  rcases h with h | ⟨expression, -, error, herror⟩
  · exact h
  · cases expression <;> cases herror

theorem ofRegion_eq_error {region : Region} :
    (∃ error, ofRegion inlineVariables start region = .error error) ↔
      ∃ interior, region = .closed interior ∧ Faulty interior := by
  constructor
  · rintro ⟨error, herror⟩
    cases region with
    | plain text => cases herror
    | abandoned text => cases herror
    | closed interior =>
        rcases Result.bind_eq_error.mp ⟨error, herror⟩ with hinterior | ⟨piece, -, error, herror⟩
        · exact ⟨interior, rfl, ofInterior_eq_error.mp hinterior⟩
        · cases herror
  · rintro ⟨interior, rfl, hfaulty⟩
    exact Result.bind_eq_error.mpr (.inl (ofInterior_eq_error.mpr hfaulty))

/-- Regions cannot be made into pieces exactly when one of their closed blocks is faulty. -/
theorem list_eq_error {regions : List Region} :
    (∃ error, list inlineVariables start regions = .error error) ↔
      ∃ interior, .closed interior ∈ regions ∧ Faulty interior := by
  induction regions generalizing start with
  | nil =>
      constructor
      · rintro ⟨error, herror⟩
        cases herror
      · rintro ⟨interior, hmem, -⟩
        cases hmem
  | cons region rest ih =>
      rw [list, Result.bind_eq_error]
      constructor
      · rintro (hregion | ⟨first, -, hrest⟩)
        · obtain ⟨interior, rfl, hfaulty⟩ := ofRegion_eq_error.mp hregion
          exact ⟨interior, List.mem_cons_self, hfaulty⟩
        · rcases Result.bind_eq_error.mp hrest with hrest | ⟨pieces, -, error, herror⟩
          · obtain ⟨interior, hmem, hfaulty⟩ := ih.mp hrest
            exact ⟨interior, List.mem_cons_of_mem region hmem, hfaulty⟩
          · cases herror
      · rintro ⟨interior, hmem, hfaulty⟩
        rcases List.mem_cons.mp hmem with hregion | hmem
        · exact .inl (ofRegion_eq_error.mpr ⟨interior, hregion.symm, hfaulty⟩)
        · cases ofRegion inlineVariables start region with
          | error error => exact .inl ⟨error, rfl⟩
          | ok first =>
              refine .inr ⟨first, rfl, Result.bind_eq_error.mpr (.inl ?_)⟩
              exact ih.mpr ⟨interior, hmem, hfaulty⟩

end Piece

namespace Template

/-- Exactly the texts with a fault are refused. -/
theorem read_eq_error {inlineVariables : Bool} {template : Text} :
    (∃ refusal, read inlineVariables template = .error refusal) ↔ HasFault template := by
  rw [read, Result.mapError_eq_error, ofRegions, Result.bind_eq_error, Piece.list_eq_error]
  constructor
  · rintro (hfaulty | ⟨pieces, -, error, herror⟩)
    · exact .inr hfaulty
    · refine .inl fun hunclosed => ?_
      rw [hunclosed] at herror
      cases herror
  · rintro (hunclosed | hfaulty)
    · cases hpieces : Piece.list inlineVariables 0 (Regions.ofTemplate template).regions with
      | error error => exact .inl (Piece.list_eq_error.mp ⟨error, hpieces⟩)
      | ok pieces =>
          obtain ⟨rest, hrest⟩ := Option.ne_none_iff_exists'.mp hunclosed
          refine .inr ⟨pieces, rfl, ?_⟩
          rw [hrest]
          exact ⟨_, rfl⟩
    · exact .inl hfaulty

end Template

end Stencil
