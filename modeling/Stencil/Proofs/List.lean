import Mathlib.Data.List.Forall2
import Mathlib.Data.List.Induction

/-! # Lists

What holds of lists whatever stands in them: where a list is split, which of its
elements is the first to have a property, and what stands in the same places of
related lists.
-/

namespace Stencil

variable {α β : Type}

namespace List

/-! ## Splitting -/

/-- A list with one more element at its end is split at that element or before it. -/
theorem concat_eq_append_cons {front before after : List α} {last middle : α} :
    front ++ [last] = before ++ middle :: after ↔
      (front = before ∧ last = middle ∧ after = []) ∨
        ∃ rest, after = rest ++ [last] ∧ front = before ++ middle :: rest := by
  rcases List.eq_nil_or_concat' after with rfl | ⟨rest, other, rfl⟩
  · simp
  · have hregroup :
        before ++ middle :: (rest ++ [other]) = before ++ middle :: rest ++ [other] := by simp
    rw [hregroup]
    constructor
    · intro h
      obtain ⟨hfront, hlast⟩ := List.append_inj' h rfl
      obtain rfl := List.singleton_inj.mp hlast
      exact .inr ⟨rest, rfl, hfront⟩
    · rintro (⟨-, -, hnil⟩ | ⟨others, hothers, rfl⟩)
      · simp at hnil
      · obtain ⟨rfl, hlast⟩ := List.append_inj' hothers rfl
        obtain rfl := List.singleton_inj.mp hlast
        rfl

/-- The first elements of two lists one after the other lie in the first, or are all of the first
and some of the second. -/
theorem take_append_cases (first more : List α) {k : Nat} (hk : k < (first ++ more).length) :
    (k < first.length ∧ (first ++ more).take k = first.take k) ∨
      (k - first.length < more.length ∧
        (first ++ more).take k = first ++ more.take (k - first.length)) := by
  rw [List.length_append] at hk
  by_cases hfirst : k < first.length
  · exact .inl ⟨hfirst, List.take_append_of_le_length (Nat.le_of_lt hfirst)⟩
  · refine .inr ⟨by omega, ?_⟩
    rw [List.take_append, List.take_of_length_le (Nat.le_of_not_lt hfirst)]

/-! ## Related lists -/

/-- An element in the middle of related lists has its counterpart there. -/
theorem forall₂_around {R : α → β → Prop} {before after : List α} {middle : α} {results : List β}
    (h : List.Forall₂ R (before ++ middle :: after) results) :
    ∃ first result last, results = first ++ result :: last ∧ List.Forall₂ R before first ∧
      R middle result ∧ List.Forall₂ R after last := by
  have hbefore := List.forall₂_take_append results before (middle :: after) h.flip
  have hrest := (List.forall₂_drop_append results before (middle :: after) h.flip).flip
  obtain ⟨result, last, hmiddle, hafter, hdrop⟩ := List.forall₂_cons_left_iff.mp hrest
  refine ⟨_, result, last, ?_, hbefore.flip, hmiddle, hafter⟩
  rw [← hdrop, List.take_append_drop]

theorem forall₂_toList {R : α → β → Prop} {first : Option α} {second : Option β}
    (h : Option.Rel R first second) : List.Forall₂ R first.toList second.toList := by
  cases h with
  | none => exact .nil
  | some h => exact .cons h .nil

/-- A list is read if each of its elements is, and then to what these are read to. -/
theorem mapM_eq_some_iff {read : α → Option β} {list : List α} {results : List β} :
    list.mapM read = some results ↔
      List.Forall₂ (fun a result => read a = some result) list results := by
  induction list generalizing results with
  | nil => simp [eq_comm]
  | cons a rest ih =>
      rw [List.mapM_cons]
      simp only [bind, pure, Option.bind_eq_some_iff, Option.some.injEq, ih,
        List.forall₂_cons_left_iff]
      constructor
      · rintro ⟨result, ha, others, hrest, rfl⟩
        exact ⟨result, others, ha, hrest, rfl⟩
      · rintro ⟨result, others, ha, hrest, rfl⟩
        exact ⟨result, ha, others, hrest, rfl⟩

end List

/-! ## The first of a list -/

/-- The first of a list that has a property, and what stands behind it. -/
structure First (p : α → Prop) (list : List α) (first : α) (after : List α) : Prop where
  holds : p first
  split : ∃ before, list = before ++ first :: after ∧ ∀ other ∈ before, ¬ p other

namespace First

variable {p : α → Prop} {list after : List α} {first : α}

theorem mem (h : First p list first after) : first ∈ list := by
  obtain ⟨before, rfl, -⟩ := h.split
  simp

/-- What is put behind a list is behind its first. -/
theorem append (h : First p list first after) (more : List α) :
    First p (list ++ more) first (after ++ more) := by
  obtain ⟨before, rfl, hbefore⟩ := h.split
  exact ⟨h.holds, before, by simp, hbefore⟩

/-- Searching a list stops at its first. -/
theorem find?_eq {test : α → Bool} (htest : ∀ a, test a = true ↔ p a)
    (h : First p list first after) : list.find? test = some first := by
  obtain ⟨before, hlist, hbefore⟩ := h.split
  refine List.find?_eq_some_iff_append.mpr ⟨(htest first).mpr h.holds, before, after, hlist, ?_⟩
  intro other hother
  simpa [← Bool.not_eq_true, htest] using hbefore other hother

end First

/-- Some element of a list is the first to have a property, or none has it. -/
theorem exists_first_or_forall (p : α → Prop) [DecidablePred p] (list : List α) :
    (∃ first after, First p list first after) ∨ ∀ a ∈ list, ¬ p a := by
  induction list with
  | nil => simp
  | cons head tail ih =>
      by_cases hhead : p head
      · exact .inl ⟨head, tail, hhead, [], rfl, by simp⟩
      · rcases ih with ⟨first, after, hfirst, before, rfl, hbefore⟩ | hnone
        · refine .inl ⟨first, after, hfirst, head :: before, rfl, ?_⟩
          exact List.forall_mem_cons.mpr ⟨hhead, hbefore⟩
        · exact .inr (List.forall_mem_cons.mpr ⟨hhead, hnone⟩)

end Stencil
