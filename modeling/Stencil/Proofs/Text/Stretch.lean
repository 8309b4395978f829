import Stencil.Text.Basic

/-! # Stretches of a text

A span marks the characters that stand between two places of a text. Places are counted in
bytes, so not every span marks something: its ends have to fall between characters.
-/

namespace Stencil

namespace Text

/-- A place between two characters of a text or at one of its ends. -/
def Boundary (text : Text) (offset : Nat) : Prop :=
  ∃ before after, text = before ++ after ∧ before.byteLength = offset

@[simp] theorem byteLength_eq_zero {text : Text} : text.byteLength = 0 ↔ text = [] := by
  cases text with
  | nil => simp
  | cons c rest => simp [Nat.ne_of_gt c.utf8Size_pos]

/-- Of the beginnings of a text there is one for each length in bytes. -/
theorem eq_of_byteLength_eq {first second rest last : Text}
    (htext : first ++ rest = second ++ last) (h : first.byteLength = second.byteLength) :
    first = second ∧ rest = last := by
  induction first generalizing second with
  | nil =>
      obtain rfl : second = [] := by simpa using h.symm
      exact ⟨rfl, htext⟩
  | cons c first ih =>
      cases second with
      | nil => simp only [byteLength_eq_zero, byteLength_nil, reduceCtorEq] at h
      | cons d second =>
          obtain ⟨rfl, htail⟩ := List.cons.inj htext
          simp only [byteLength_cons, Nat.add_left_cancel_iff] at h
          obtain ⟨rfl, hrest⟩ := ih htail h
          exact ⟨rfl, hrest⟩

end Text

namespace Span

/-- The span marks `part` in the text. -/
def Marks (span : Span) (text part : Text) : Prop :=
  ∃ before after, text = before ++ part ++ after ∧ span = ⟨before.byteLength, part.byteLength⟩

/-- The span marks at least one character of the text. -/
def Within (span : Span) (text : Text) : Prop := ∃ part, part ≠ [] ∧ span.Marks text part

namespace Marks

variable {span : Span} {text part : Text}

theorem boundary_start (h : span.Marks text part) : text.Boundary span.start := by
  obtain ⟨before, after, rfl, rfl⟩ := h
  exact ⟨before, part ++ after, by simp, rfl⟩

theorem boundary_stop (h : span.Marks text part) : text.Boundary span.stop := by
  obtain ⟨before, after, rfl, rfl⟩ := h
  exact ⟨before ++ part, after, rfl, by simp [stop]⟩

theorem stop_le (h : span.Marks text part) : span.stop ≤ text.byteLength := by
  obtain ⟨before, after, rfl, rfl⟩ := h
  simp [stop]

/-- A span marks no more than one stretch of a text. -/
theorem unique {other : Text} (h : span.Marks text part) (hother : span.Marks text other) :
    other = part := by
  obtain ⟨before, after, rfl, rfl⟩ := h
  obtain ⟨front, back, htext, hspan⟩ := hother
  obtain ⟨hbefore, hpart⟩ := Span.mk.inj hspan
  simp only [List.append_assoc] at htext
  obtain ⟨-, hrest⟩ := Text.eq_of_byteLength_eq htext hbefore
  exact (Text.eq_of_byteLength_eq hrest hpart).1.symm

/-- What a span marks in a stretch of a text it marks in the text, moved to that stretch. -/
theorem moved (before after : Text) (h : span.Marks text part) :
    (span.shift before.byteLength).Marks (before ++ text ++ after) part := by
  obtain ⟨front, back, rfl, rfl⟩ := h
  exact ⟨before ++ front, back ++ after, by simp, by simp [shift]⟩

end Marks

/-- Between two places of a text a span marks what stands there. -/
theorem exists_marks {span : Span} {text : Text} (hstart : text.Boundary span.start)
    (hstop : text.Boundary span.stop) : ∃ part, span.Marks text part := by
  obtain ⟨start, length⟩ := span
  obtain ⟨before, rest, rfl, rfl⟩ := hstart
  obtain ⟨front, after, htext, hfront⟩ := hstop
  simp only [stop] at hfront
  rcases List.append_eq_append_iff.mp htext with ⟨part, rfl, rfl⟩ | ⟨part, rfl, rfl⟩
  · refine ⟨part, before, after, by simp, ?_⟩
    simp only [Text.byteLength_append, Nat.add_left_cancel_iff] at hfront
    rw [hfront]
  · -- the later place is not in front of the earlier one, so nothing stands between them
    simp only [Text.byteLength_append] at hfront
    obtain rfl : length = 0 := by omega
    exact ⟨[], front ++ part, rest, by simp, rfl⟩

namespace Within

variable {span : Span} {text : Text}

theorem length_pos (h : span.Within text) : 1 ≤ span.length := by
  obtain ⟨part, hne, before, after, -, rfl⟩ := h
  have hlength : Text.byteLength part ≠ 0 := by simpa using hne
  simp only
  omega

/-- The span is not empty and ends in the text, and no character is cut at either end. -/
theorem bounds (h : span.Within text) :
    1 ≤ span.length ∧ span.stop ≤ text.byteLength ∧ text.Boundary span.start ∧
      text.Boundary span.stop := by
  have hlength := h.length_pos
  obtain ⟨part, -, hmarks⟩ := h
  exact ⟨hlength, hmarks.stop_le, hmarks.boundary_start, hmarks.boundary_stop⟩

theorem moved (before after : Text) (h : span.Within text) :
    (span.shift before.byteLength).Within (before ++ text ++ after) := by
  obtain ⟨part, hne, hmarks⟩ := h
  exact ⟨part, hne, hmarks.moved before after⟩

end Within

end Span

end Stencil
