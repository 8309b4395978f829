import Mathlib.Data.List.Forall2
import Stencil.Proofs.Variables.Lookup
import Stencil.Render

/-! # Variables that agree

Two states agree on some names when each of them has the same value in both, or in neither.
They go on agreeing when the same values are set in both, also under other spellings of the
names. So the roots of two renderings agree where the caller's variables do, provided that they
agree on whatever has a default, and so do the variables that functions are called with.
-/

namespace Stencil

namespace Variables

/-- A name has one value in all its spellings. -/
theorem get?_congr (vars : Variables) {first second : Text}
    (hsame : first.sameName second = true) : vars.get? first = vars.get? second := by
  have hcongr := Text.sameName_congr hsame
  ext value
  simp only [get?_eq_some_iff, Text.sameName_comm _ first, Text.sameName_comm _ second, hcongr]

/-- Variables that have the same value, or none, for each of the names. -/
def Agree (names : Text → Prop) (first second : Variables) : Prop :=
  ∀ name, names name → first.get? name = second.get? name

namespace Agree

variable {names : Text → Prop} {first second : Variables}

theorem set (agree : Agree names first second) {name spelling : Text}
    (hname : name.sameName spelling = true) (value : Text) :
    Agree names (first.set name value) (second.set spelling value) := by
  intro other hother
  rw [get?_set, get?_set, Text.sameName_congr hname, agree other hother]

/-- Setting the same values one after another keeps variables in agreement. -/
theorem extend (agree : Agree names first second) {pairs others : List (Text × Text)}
    (hpairs : List.Forall₂ (fun pair other : Text × Text =>
      pair.1.sameName other.1 = true ∧ pair.2 = other.2) pairs others) :
    Agree names (first.extend pairs) (second.extend others) := by
  refine List.rel_foldl ?_ agree hpairs
  rintro first second agree pair other ⟨hname, hvalue⟩
  dsimp only
  rw [← hvalue]
  exact agree.set hname pair.2

theorem contains (agree : Agree names first second) {name spelling : Text} (hmem : names name)
    (hname : name.sameName spelling = true) :
    first.contains name = second.contains spelling := by
  rw [Variables.contains, Variables.contains, agree name hmem, second.get?_congr hname]

/-- Defaults are filled in on both sides or on neither, where the variables agree on the names
that have them. -/
theorem seed (agree : Agree names first second) {config other : Config}
    (hparameters : List.Forall₂ (fun parameter copy : Parameter =>
        names parameter.name ∧ parameter.name.sameName copy.name = true ∧
          parameter.default = copy.default)
      config.parameters other.parameters) :
    Agree names (config.seed first) (other.seed second) := by
  refine List.rel_foldl ?_ agree hparameters
  rintro first second agree parameter copy ⟨hmem, hname, hdefault⟩
  dsimp only
  rw [← hdefault]
  cases parameter.default with
  | none => exact agree
  | some value =>
      dsimp only
      rw [agree.contains hmem hname]
      split
      next => exact agree
      next => exact agree.set hname value

end Agree

end Variables

end Stencil
