import Stencil.Proofs.Template.Names
import Stencil.Proofs.Variables.Lookup
import Stencil.Render

/-! # Filling in variables

What a text is filled to when the variables that it names behind a `$` give way to their
values. The rules are over the text itself; they know neither pieces nor blocks, and give
each text exactly one result.
-/

namespace Stencil

open Grammar

/-- The characters that a name outside blocks starts with: the ASCII letters and the underscore. -/
def Grammar.NameStart (c : Char) : Prop := ('A' ≤ c ∧ c ≤ 'Z') ∨ ('a' ≤ c ∧ c ≤ 'z') ∨ c = '_'

instance (c : Char) : Decidable (NameStart c) :=
  inferInstanceAs (Decidable (_ ∨ _ ∨ _))

theorem Grammar.isNameStart_iff {c : Char} : isNameStart c = true ↔ NameStart c := by
  have hchar : isNameStart c = (c.isUpper || c.isLower || c == '_') := rfl
  have hupper : c.isUpper = decide ('A' ≤ c ∧ c ≤ 'Z') := rfl
  have hlower : c.isLower = (decide ('a' ≤ c) && decide (c ≤ 'z')) := rfl
  rw [hchar, hupper, hlower]
  simp only [NameStart, Bool.or_eq_true, Bool.and_eq_true, decide_eq_true_eq, beq_iff_eq, or_assoc]

/-- The text that a name stands for: the value of the entry of that name, in whatever case it is
spelt, and nothing if there is none. -/
inductive Variables.StandsFor (vars : Variables) (name : Text) : Text → Prop where
  | entry {entry : Entry} (hmem : entry ∈ vars.entries) (hname : entry.name.fold = name.fold) :
      StandsFor vars name entry.value
  | absent (hnone : ∀ entry ∈ vars.entries, entry.name.fold ≠ name.fold) : StandsFor vars name []

theorem Variables.standsFor_iff {vars : Variables} {name value : Text} :
    vars.StandsFor name value ↔ value = (vars.get? name).getD [] := by
  constructor
  · rintro (⟨hmem, hname⟩ | hnone)
    · rw [get?_eq_some_iff.mpr ⟨_, hmem, Text.sameName_iff.mpr hname, rfl⟩, Option.getD_some]
    · rw [get?_eq_none_iff.mpr, Option.getD_none]
      intro entry hmem
      rw [← Bool.not_eq_true, Text.sameName_iff]
      exact hnone entry hmem
  · rintro rfl
    cases hvalue : vars.get? name with
    | some value =>
        obtain ⟨entry, hmem, hname, rfl⟩ := get?_eq_some_iff.mp hvalue
        exact .entry hmem (Text.sameName_iff.mp hname)
    | none =>
        refine .absent fun entry hmem hname => ?_
        have hother := get?_eq_none_iff.mp hvalue entry hmem
        rw [Text.sameName_iff.mpr hname] at hother
        cases hother

/-- A text and the same text with its variables filled in. A `$` with a name behind it gives way to
what the name stands for; the name starts with a letter or an underscore and goes as far as it can.
Any other character stays. -/
inductive Text.Filled (vars : Variables) : Text → Text → Prop where
  | nil : Filled vars [] []
  | name {name rest value output : Text} (hstart : ∃ c ∈ name.head?, NameStart c)
      (hname : ∀ c ∈ name, NameChar c) (hstop : ∀ c ∈ rest.head?, ¬ NameChar c)
      (stands : vars.StandsFor name value) (filled : Filled vars rest output) :
      Filled vars ('$' :: (name ++ rest)) (value ++ output)
  | char {c : Char} {rest output : Text} (hdollar : c = '$' → ∀ d ∈ rest.head?, ¬ NameStart d)
      (filled : Filled vars rest output) : Filled vars (c :: rest) (c :: output)

namespace Piece

theorem startsName_iff {text : Text} :
    startsName text = true ↔ ∃ c ∈ text.head?, NameStart c := by
  cases text with
  | nil => simp [startsName]
  | cons c rest => simp [startsName, isNameStart_iff]

/-- The text that a piece without a call comes to. -/
def shown (root : Variables) : Piece → Text
  | .text t => t
  | .block b => (b.text? root).getD []

/-- The pieces of a text come to the text with its variables filled in, and to nothing else. -/
theorem filled_iff {root : Variables} {text output : Text} :
    Text.Filled root text output ↔ output = (inline text).flatMap (shown root) := by
  constructor
  · intro filled
    induction filled with
    | nil =>
        rw [inline]
        rfl
    | name hstart hname hstop stands _ ih =>
        rw [inline_name (startsName_iff.mpr hstart) hname hstop, List.flatMap_cons, ← ih,
          Variables.standsFor_iff.mp stands]
        rfl
    | @char c rest output hdollar _ ih =>
        have hother : ¬ (c = '$' ∧ startsName rest = true) := by
          rintro ⟨hc, hstart⟩
          obtain ⟨d, hd, hfirst⟩ := startsName_iff.mp hstart
          exact hdollar hc d hd hfirst
        rw [Scanner.Piece.inline_cons hother, List.flatMap_cons, ← ih]
        rfl
  · rintro rfl
    induction text using inline_induction with
    | nil =>
        rw [inline]
        exact .nil
    | name name rest hstart hname hstop ih =>
        rw [inline_name hstart hname hstop, List.flatMap_cons]
        exact .name (startsName_iff.mp hstart) hname hstop (Variables.standsFor_iff.mpr rfl) ih
    | char c rest hdollar ih =>
        rw [Scanner.Piece.inline_cons hdollar, List.flatMap_cons]
        refine .char (fun hc d hd hfirst => hdollar ⟨hc, ?_⟩) ih
        exact startsName_iff.mpr ⟨d, hd, hfirst⟩

end Piece

end Stencil
