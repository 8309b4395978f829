import Mathlib.Data.List.TakeWhile
import Stencil.Text.Blank

/-! # Trimmed text

A text is its trimmed form with blanks on either side, and the trimmed form neither
starts nor ends with a blank.
-/

namespace Stencil.Text

/-- A text of blanks alone. -/
def Blanks (text : Text) : Prop := ∀ c ∈ text, isBlank c = true

instance (text : Text) : Decidable (Blanks text) :=
  decidable_of_iff (text.all isBlank = true) List.all_eq_true

theorem Blanks.append {first second : Text} (hfirst : Blanks first) (hsecond : Blanks second) :
    Blanks (first ++ second) :=
  List.forall_mem_append.mpr ⟨hfirst, hsecond⟩

theorem blanks_leadingBlanks (text : Text) : Blanks (leadingBlanks text) :=
  fun _ hc => List.mem_takeWhile_imp hc

/-- Nothing but blanks goes off the end. -/
theorem exists_trimEnd (text : Text) : ∃ trail, text = trimEnd text ++ trail ∧ Blanks trail := by
  refine ⟨(text.reverse.takeWhile isBlank).reverse, ?_, ?_⟩
  · rw [trimEnd, ← List.reverse_append, List.takeWhile_append_dropWhile, List.reverse_reverse]
  · intro c hc
    exact List.mem_takeWhile_imp (List.mem_reverse.mp hc)

/-- Nothing but blanks goes off either side. -/
theorem exists_trim (text : Text) :
    ∃ trail, text = leadingBlanks text ++ trim text ++ trail ∧ Blanks trail := by
  obtain ⟨trail, htrail, hblanks⟩ := exists_trimEnd (trimStart text)
  refine ⟨trail, ?_, hblanks⟩
  rw [trim, List.append_assoc, ← htrail, leadingBlanks_append_trimStart]

/-- A trimmed text of blanks is empty: its last character is none. -/
theorem trim_eq_nil_of_blanks {text : Text} (h : Blanks (trim text)) : trim text = [] := by
  have hlast := List.head?_dropWhile_not isBlank (trimStart text).reverse
  rw [trim, trimEnd] at h ⊢
  cases hrest : (trimStart text).reverse.dropWhile isBlank with
  | nil => rfl
  | cons c rest =>
      rw [hrest] at h hlast
      have hc : isBlank c = true := h c (List.mem_reverse.mpr List.mem_cons_self)
      simp only [List.head?_cons, hc] at hlast
      cases hlast

end Stencil.Text
