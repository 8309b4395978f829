import Stencil.Proofs.Template.Faults

/-! # Where a refusal comes from

A template is refused for what the reader of expressions says about the trimmed inside of the
leftmost of its closed blocks that is no expression, at the place where that block stands. If there
is none, it is refused for what is open at its end.
-/

namespace Stencil

/-- The leftmost closed block among some regions that is no expression, with the regions in front
of it. -/
structure Region.FirstFault (regions before : List Region) (interior : Text) : Prop where
  faulty : Faulty interior
  sound : ∀ earlier, .closed earlier ∈ before → ¬ Faulty earlier
  split : ∃ after, regions = before ++ .closed interior :: after

namespace Piece

variable {inlineVariables : Bool} {start : Nat} {error : ParseError}

/-- The place of the first character of a block that is no blank, the block starting at byte
`start`. -/
def contentStart (start : Nat) (interior : Text) : Nat :=
  start + opener.byteLength + (Text.leadingBlanks interior).byteLength

theorem readAt_of_ofRegion_eq_error {region : Region}
    (h : ofRegion inlineVariables start region = .error error) :
    ∃ interior, region = .closed interior ∧
      Expression.readAt (contentStart start interior) interior.trim = .error error := by
  cases region with
  | plain text => cases h
  | abandoned text => cases h
  | closed interior =>
      refine ⟨interior, rfl, ?_⟩
      rcases Result.bind_eq_error_iff.mp h with hinterior | ⟨piece, -, h⟩
      · rcases Result.bind_eq_error_iff.mp hinterior with hread | ⟨expression, -, h⟩
        · exact hread
        · cases expression <;> cases h
      · cases h

/-- Regions are refused for the leftmost of their closed blocks that is no expression, at its
place. -/
theorem exists_of_list_eq_error {regions : List Region}
    (h : list inlineVariables start regions = .error error) :
    ∃ before interior, Region.FirstFault regions before interior ∧
      Expression.readAt
        (contentStart (start + Text.byteLength (before.flatMap Region.source)) interior)
        interior.trim = .error error := by
  induction regions generalizing start with
  | nil => cases h
  | cons region rest ih =>
      rw [list] at h
      rcases Result.bind_eq_error_iff.mp h with hregion | ⟨first, hfirst, h⟩
      · obtain ⟨interior, rfl, hread⟩ := readAt_of_ofRegion_eq_error hregion
        have hfaulty : Faulty interior := Expression.readAt_eq_error.mp ⟨error, hread⟩
        exact ⟨[], interior, ⟨hfaulty, by simp, rest, rfl⟩, hread⟩
      · rcases Result.bind_eq_error_iff.mp h with hrest | ⟨pieces, -, h⟩
        · obtain ⟨before, interior, ⟨hfaulty, hsound, after, rfl⟩, hread⟩ := ih hrest
          refine ⟨region :: before, interior, ⟨hfaulty, ?_, after, rfl⟩, ?_⟩
          · intro earlier hmem hearlier
            rcases List.mem_cons.mp hmem with rfl | hmem
            · obtain ⟨other, hother⟩ := ofRegion_eq_error.mpr ⟨earlier, rfl, hearlier⟩
              rw [hother] at hfirst
              cases hfirst
            · exact hsound earlier hmem hearlier
          · rw [List.flatMap_cons, Text.byteLength_append, ← Nat.add_assoc]
            exact hread
        · cases h

/-- Regions with a closed block that is no expression are refused for what the leftmost one
holds. -/
theorem list_of_firstFault {regions before : List Region} {interior : Text}
    (fault : Region.FirstFault regions before interior)
    (hread : Expression.readAt
      (contentStart (start + Text.byteLength (before.flatMap Region.source)) interior)
      interior.trim = .error error) :
    list inlineVariables start regions = .error error := by
  obtain ⟨hfaulty, hsound, after, rfl⟩ := fault
  induction before generalizing start with
  | nil =>
      have hpiece : ofInterior (start + opener.byteLength) interior = .error error :=
        Result.bind_eq_error_iff.mpr (.inl hread)
      have hregion : ofRegion inlineVariables start (.closed interior) = .error error :=
        Result.bind_eq_error_iff.mpr (.inl hpiece)
      exact Result.bind_eq_error_iff.mpr (.inl hregion)
  | cons region before ih =>
      rw [List.flatMap_cons, Text.byteLength_append, ← Nat.add_assoc] at hread
      have hrest := ih hread fun earlier hmem =>
        hsound earlier (List.mem_cons_of_mem region hmem)
      cases hregion : ofRegion inlineVariables start region with
      | error other =>
          obtain ⟨earlier, rfl, hearlier⟩ := ofRegion_eq_error.mp ⟨other, hregion⟩
          exact absurd hearlier (hsound earlier List.mem_cons_self)
      | ok first =>
          rw [List.cons_append, list, hregion]
          exact Result.bind_eq_error_iff.mpr (.inr ⟨first, rfl,
            Result.bind_eq_error_iff.mpr (.inl hrest)⟩)

end Piece

namespace Template

/-- A refusal names the template and comes from one of its closed blocks or from its end. -/
theorem exists_of_read_eq_error {inlineVariables : Bool} {template : Text} {refusal : Refusal}
    (h : read inlineVariables template = .error refusal) :
    refusal.template = template ∧
      ((∃ before interior after,
          (Regions.ofTemplate template).regions = before ++ .closed interior :: after ∧
          Expression.readAt
            (Piece.contentStart (Text.byteLength (before.flatMap Region.source)) interior)
            interior.trim = .error refusal.error) ∨
        ∃ rest, (Regions.ofTemplate template).unclosed = some rest ∧
          refusal.error.cause = rest.cause) := by
  obtain ⟨error, hregions, rfl⟩ := Result.mapError_eq_error_iff.mp h
  refine ⟨rfl, ?_⟩
  rcases Result.bind_eq_error_iff.mp hregions with hpieces | ⟨pieces, -, hend⟩
  · obtain ⟨before, interior, ⟨-, -, after, hblock⟩, hread⟩ :=
      Piece.exists_of_list_eq_error hpieces
    rw [Nat.zero_add] at hread
    exact .inl ⟨before, interior, after, hblock, hread⟩
  · cases hunclosed : (Regions.ofTemplate template).unclosed with
    | none =>
        rw [hunclosed] at hend
        cases hend
    | some rest =>
        rw [hunclosed] at hend
        cases hend
        exact .inr ⟨rest, rfl, rfl⟩

end Template

end Stencil
