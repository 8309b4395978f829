import Mathlib.Data.List.Forall2
import Stencil.Name

/-! # Names in another case

What makes two texts one name, said character by character: each character of one is that of
the other, or the two are an ASCII capital and its small letter. Folding decides just this, so
letters outside ASCII are never taken for each other.
-/

namespace Stencil

/-- Characters that count as one in a name: equal ones, and an ASCII capital with its small
letter. -/
def SameLetter (c d : Char) : Prop :=
  c = d ∨ ('A' ≤ c ∧ c ≤ 'Z' ∧ d.toNat = c.toNat + 32) ∨
    ('A' ≤ d ∧ d ≤ 'Z' ∧ c.toNat = d.toNat + 32)

instance (c d : Char) : Decidable (SameLetter c d) :=
  inferInstanceAs (Decidable (_ ∨ _ ∨ _))

namespace SameLetter

theorem capital_iff {c : Char} : 'A' ≤ c ∧ c ≤ 'Z' ↔ 65 ≤ c.toNat ∧ c.toNat ≤ 90 := by
  simp only [Char.le_def, UInt32.le_iff_toNat_le]
  rfl

theorem toNat_toLower (c : Char) :
    c.toLower.toNat = if 'A' ≤ c ∧ c ≤ 'Z' then c.toNat + 32 else c.toNat := by
  by_cases hcapital : 'A' ≤ c ∧ c ≤ 'Z'
  · have hdistance : ('a'.val - 'A'.val).toNat = 32 := rfl
    have hbound := (capital_iff.mp hcapital).2
    have hlower : c.toLower.val = c.val + ('a'.val - 'A'.val) := by
      delta Char.toLower
      rw [dif_pos (show c.val ≥ 'A'.val ∧ c.val ≤ 'Z'.val from hcapital)]
    rw [if_pos hcapital]
    simp only [Char.toNat] at hbound ⊢
    -- the sum stays below the width of a character
    rw [hlower, UInt32.toNat_add, hdistance]
    omega
  · rw [if_neg hcapital]
    delta Char.toLower
    rw [dif_neg (show ¬ (c.val ≥ 'A'.val ∧ c.val ≤ 'Z'.val) from hcapital)]

/-- Two characters have the same small letter exactly when they count as one. -/
theorem toLower_eq_iff {c d : Char} : c.toLower = d.toLower ↔ SameLetter c d := by
  rw [SameLetter, ← Char.toNat_inj, ← Char.toNat_inj, toNat_toLower, toNat_toLower]
  simp only [capital_iff, ← and_assoc]
  grind

end SameLetter

namespace Text

/-- A text and the same text with the case of some of its ASCII letters changed. -/
def Recased (first second : Text) : Prop := List.Forall₂ SameLetter first second

instance (first second : Text) : Decidable (Recased first second) :=
  inferInstanceAs (Decidable (List.Forall₂ SameLetter first second))

/-- Names are the same exactly when they are one text up to the case of ASCII letters. -/
theorem sameName_iff_recased {first second : Text} :
    sameName first second = true ↔ Recased first second := by
  rw [sameName_iff, fold, fold, ← List.forall₂_eq_eq_eq, List.forall₂_map_left_iff,
    List.forall₂_map_right_iff]
  simp only [SameLetter.toLower_eq_iff]
  rfl

/-- A letter outside ASCII is another letter in another case. -/
example : Recased ['N', 'a', 'ï'] ['n', 'A', 'ï'] ∧ ¬ Recased ['n', 'a', 'Ï'] ['n', 'a', 'ï'] := by
  decide

end Text

end Stencil
