import Stencil.Proofs.Text.Stretch

/-! # Cutting a text at bytes

A slice of a text is taken between two places that are counted in bytes. It can be had if the second
place does not lie before the first, and both stand between characters of the text. In every other
case there is no slice.
-/

namespace Stencil.Text

/-- A text cut behind its first bytes, if they end with a character. -/
def cutAt? : Nat → Text → Option (Text × Text)
  | 0, text => some ([], text)
  | _ + 1, [] => none
  | count + 1, c :: rest =>
    if c.utf8Size ≤ count + 1 then
      (cutAt? (count + 1 - c.utf8Size) rest).map fun (before, after) => (c :: before, after)
    else none

/-- The text from byte `start` to byte `stop`. -/
def slice? (text : Text) (start stop : Nat) : Option Text :=
  if start ≤ stop then do
    let (_, rest) ← cutAt? start text
    let (part, _) ← cutAt? (stop - start) rest
    return part
  else none

theorem cutAt?_eq_some_iff {count : Nat} {text before after : Text} :
    cutAt? count text = some (before, after) ↔
      text = before ++ after ∧ before.byteLength = count := by
  fun_induction cutAt? count text generalizing before after with
  | case1 text =>
      constructor
      · intro h
        cases h
        exact ⟨rfl, rfl⟩
      · rintro ⟨rfl, hbefore⟩
        rw [byteLength_eq_zero.mp hbefore]
        rfl
  | case2 count =>
      constructor
      · intro h
        cases h
      · rintro ⟨htext, hbefore⟩
        rw [(List.append_eq_nil_iff.mp htext.symm).1] at hbefore
        cases hbefore
  | case3 count c tail hfits ih =>
      simp only [Option.map_eq_some_iff, Prod.exists, ih]
      constructor
      · rintro ⟨before, after, ⟨rfl, hbefore⟩, heq⟩
        cases heq
        refine ⟨rfl, ?_⟩
        rw [byteLength_cons, hbefore, Nat.add_sub_cancel' hfits]
      · rintro ⟨htext, hbefore⟩
        cases before with
        | nil => cases hbefore
        | cons d before =>
            obtain ⟨rfl, rfl⟩ := List.cons.inj htext
            refine ⟨before, after, ⟨rfl, ?_⟩, rfl⟩
            exact Nat.eq_sub_of_add_eq' hbefore
  | case4 count c tail hwide =>
      constructor
      · intro h
        cases h
      · rintro ⟨htext, hbefore⟩
        cases before with
        | nil => cases hbefore
        | cons d before =>
            obtain ⟨rfl, -⟩ := List.cons.inj htext
            exact absurd (Nat.le.intro hbefore) hwide

variable {text part : Text} {start stop : Nat}

/-- A slice is what a span marks from the one place to the other. -/
theorem slice?_eq_some_iff :
    slice? text start stop = some part ↔
      start ≤ stop ∧ (Span.mk start (stop - start)).Marks text part := by
  rw [slice?]
  split
  next hle =>
    simp only [bind, pure, Option.bind_eq_some_iff, Prod.exists, cutAt?_eq_some_iff,
      Option.some.injEq]
    constructor
    · rintro ⟨before, _, ⟨rfl, rfl⟩, _, after, ⟨rfl, hpart⟩, rfl⟩
      exact ⟨hle, before, after, by simp, by rw [hpart]⟩
    · rintro ⟨-, before, after, htext, hspan⟩
      obtain ⟨hstart, hlength⟩ := Span.mk.inj hspan
      exact ⟨before, part ++ after, ⟨by simp [htext], hstart.symm⟩, part, after,
        ⟨rfl, hlength.symm⟩, rfl⟩
  next hlt =>
    constructor
    · intro h
      cases h
    · rintro ⟨hle, -⟩
      exact absurd hle hlt

/-- A place in a text is a place in every longer text that starts with it. -/
theorem Boundary.append {offset : Nat} (h : text.Boundary offset) (rest : Text) :
    (text ++ rest).Boundary offset := by
  obtain ⟨before, after, rfl, hbefore⟩ := h
  exact ⟨before, after ++ rest, List.append_assoc _ _ _, hbefore⟩

theorem Boundary.prepend {offset : Nat} (front : Text) (h : text.Boundary offset) :
    (front ++ text).Boundary (front.byteLength + offset) := by
  obtain ⟨before, after, rfl, rfl⟩ := h
  exact ⟨front ++ before, after, (List.append_assoc _ _ _).symm, byteLength_append _ _⟩

/-- A text can be cut at two places in their order. -/
structure Cuts (text : Text) (start stop : Nat) : Prop where
  le : start ≤ stop
  le_byteLength : stop ≤ text.byteLength
  boundary_start : text.Boundary start
  boundary_stop : text.Boundary stop

theorem cuts_of_eq {before after : Text} (htext : text = before ++ part ++ after)
    (hstart : start = before.byteLength) (hstop : stop = (before ++ part).byteLength) :
    text.Cuts start stop := by
  subst htext hstart hstop
  exact {
    le := by simp
    le_byteLength := by simp
    boundary_start := ⟨before, part ++ after, List.append_assoc _ _ _, rfl⟩
    boundary_stop := ⟨before ++ part, after, rfl, rfl⟩ }

/-- From a place in a text to its end, every longer text that starts with it can be cut. -/
theorem Boundary.cuts {offset : Nat} (h : text.Boundary offset) (rest : Text) :
    (text ++ rest).Cuts offset text.byteLength := by
  obtain ⟨before, after, rfl, rfl⟩ := h
  exact cuts_of_eq rfl rfl rfl

/-- Where a part of a text can be cut, the text can be cut as well. -/
theorem Cuts.moved (before after : Text) (cuts : text.Cuts start stop) :
    (before ++ text ++ after).Cuts (before.byteLength + start) (before.byteLength + stop) where
  le := Nat.add_le_add_left cuts.le _
  le_byteLength := by
    rw [byteLength_append, byteLength_append]
    exact Nat.le_trans (Nat.add_le_add_left cuts.le_byteLength _) (Nat.le_add_right _ _)
  boundary_start := (cuts.boundary_start.prepend before).append after
  boundary_stop := (cuts.boundary_stop.prepend before).append after

/-- A slice can be had where the text can be cut, and nowhere else. -/
theorem exists_slice?_iff :
    (∃ part, slice? text start stop = some part) ↔ text.Cuts start stop := by
  simp only [slice?_eq_some_iff, exists_and_left]
  constructor
  · rintro ⟨hle, part, before, after, rfl, hspan⟩
    obtain ⟨rfl, hlength⟩ := Span.mk.inj hspan
    have hstop : stop = (before ++ part).byteLength := by
      rw [byteLength_append, ← hlength, Nat.add_sub_cancel' hle]
    exact cuts_of_eq rfl rfl hstop
  · intro cuts
    have hstop : (Span.mk start (stop - start)).stop = stop := Nat.add_sub_cancel' cuts.le
    refine ⟨cuts.le, Span.exists_marks cuts.boundary_start ?_⟩
    rw [hstop]
    exact cuts.boundary_stop

theorem slice?_append (before part after : Text) :
    slice? (before ++ part ++ after) before.byteLength (before ++ part).byteLength = some part := by
  refine slice?_eq_some_iff.mpr ⟨?_, before, after, rfl, ?_⟩
  · simp
  · simp

end Stencil.Text
