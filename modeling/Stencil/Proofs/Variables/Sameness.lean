import Mathlib.Data.List.Nodup
import Mathlib.Data.List.Perm.Subperm
import Stencil.Proofs.Variables.Agreement
import Stencil.Proofs.Variables.History

/-! # Variables that are the same

Two states are the same if they hold the same spellings with the same values, in whatever order. The
order is all that they can differ in: no other question tells them apart, and whatever is done to
both leaves them the same. So values for different names can be set in any order. What the
comparison sees of a state is the entry of each name, spelling included, and each operation changes
the entry of its own name alone.
-/

namespace Stencil

namespace Entry

theorem lookup?_eq_find? (name : Text) (entries : List Entry) :
    lookup? name entries =
      (entries.find? fun entry => entry.name.sameName name).map Entry.value := by
  induction entries with
  | nil => rfl
  | cons entry rest ih =>
      rw [lookup?_cons, List.find?_cons, ih]
      cases entry.name.sameName name <;> simp

/-- Writing keeps the spelling of a name that is there, and takes the given one for a new name. -/
theorem find?_write (name value : Text) (entries : List Entry) (other : Text) :
    ((write name value entries).find? fun entry => entry.name.sameName other) =
      if name.sameName other then
        some
          ⟨((entries.find? fun entry => entry.name.sameName name).map Entry.name).getD name, value⟩
      else entries.find? fun entry => entry.name.sameName other := by
  induction entries with
  | nil =>
      rw [write, List.find?_cons]
      cases name.sameName other <;> simp
  | cons entry rest ih =>
      rw [write]
      by_cases hname : entry.name.sameName name = true
      · rw [if_pos hname, List.find?_cons, List.find?_cons, List.find?_cons, hname,
          Text.sameName_congr hname]
        cases name.sameName other <;> simp
      · rw [if_neg hname, List.find?_cons, List.find?_cons, List.find?_cons, ih]
        by_cases hother : name.sameName other = true
        · have hentry : ¬ entry.name.sameName other = true := by
            rwa [Text.sameName_comm, ← Text.sameName_congr hother, Text.sameName_comm]
          simp [hname, hother, hentry]
        · simp [hother]

end Entry

namespace Variables

variable {vars first second : Variables} {name value : Text} {entry : Entry}
  {pairs others : List (Text × Text)}

/-! ## The entry of a name -/

/-- The entry of a name: the spelling that the name has, with its value. -/
def entryOf? (vars : Variables) (name : Text) : Option Entry :=
  vars.entries.find? fun entry => entry.name.sameName name

theorem get?_eq_entryOf? (vars : Variables) (name : Text) :
    vars.get? name = (vars.entryOf? name).map Entry.value :=
  Entry.lookup?_eq_find? name vars.entries

theorem entryOf?_set (vars : Variables) (name value other : Text) :
    (vars.set name value).entryOf? other =
      if name.sameName other then
        some ⟨((vars.entryOf? name).map Entry.name).getD name, value⟩
      else vars.entryOf? other :=
  Entry.find?_write name value vars.entries other

theorem entryOf?_erase (vars : Variables) (name other : Text) :
    (vars.erase name).entryOf? other =
      if name.sameName other then none else vars.entryOf? other := by
  have hentries : (vars.erase name).entries =
      vars.entries.filter fun entry => !entry.name.sameName name := rfl
  rw [entryOf?, hentries, List.find?_filter, entryOf?]
  by_cases hother : name.sameName other = true
  · rw [if_pos hother, List.find?_eq_none]
    intro entry _
    rw [Text.sameName_congr_right hother]
    simp
  · rw [if_neg hother]
    congr 1
    funext entry
    by_cases hentry : entry.name.sameName other = true
    · rw [Text.sameName_congr hentry, Text.sameName_comm other]
      simp [hother, hentry]
    · simp [hentry]

theorem entryOf?_eq_some_iff :
    vars.entryOf? name = some entry ↔ entry ∈ vars.entries ∧ entry.name.sameName name = true := by
  rw [entryOf?]
  constructor
  · intro h
    have hname := List.find?_some h
    exact ⟨List.mem_of_find?_eq_some h, hname⟩
  · rintro ⟨hmem, hname⟩
    cases hfound : vars.entries.find? fun entry => entry.name.sameName name with
    | none => exact absurd hname (List.find?_eq_none.mp hfound entry hmem)
    | some found =>
        have hsame := List.find?_some hfound
        -- no two entries have one name
        have hkey : found.key = entry.key :=
          (Text.sameName_iff.mp hsame).trans (Text.sameName_iff.mp hname).symm
        rw [List.inj_on_of_nodup_map vars.distinct (List.mem_of_find?_eq_some hfound) hmem hkey]

/-! ## When states are the same -/

theorem nodup_entries (vars : Variables) : vars.entries.Nodup :=
  List.Nodup.of_map Entry.key vars.distinct

theorem same_iff_perm : first.same second = true ↔ first.entries.Perm second.entries := by
  rw [same, Bool.and_eq_true, beq_iff_eq, List.all_eq_true]
  simp only [List.contains_iff_mem]
  constructor
  · rintro ⟨hsize, hsubset⟩
    exact (first.nodup_entries.subperm hsubset).perm_of_length_le (Nat.le_of_eq hsize.symm)
  · intro hperm
    exact ⟨hperm.length_eq, fun entry hmem => hperm.subset hmem⟩

theorem same_iff_mem :
    first.same second = true ↔ ∀ entry, entry ∈ first.entries ↔ entry ∈ second.entries := by
  rw [same_iff_perm, List.perm_ext_iff_of_nodup first.nodup_entries second.nodup_entries]

/-- States are the same if every name has the same entry in both, or none. -/
theorem same_iff_entryOf? :
    first.same second = true ↔ ∀ name, first.entryOf? name = second.entryOf? name := by
  rw [same_iff_mem]
  constructor
  · intro h name
    ext entry
    rw [entryOf?_eq_some_iff, entryOf?_eq_some_iff, h]
  · intro h entry
    have hname := Text.sameName_refl entry.name
    constructor
    · intro hmem
      have hfound := entryOf?_eq_some_iff.mpr ⟨hmem, hname⟩
      rw [h] at hfound
      exact (entryOf?_eq_some_iff.mp hfound).1
    · intro hmem
      have hfound := entryOf?_eq_some_iff.mpr ⟨hmem, hname⟩
      rw [← h] at hfound
      exact (entryOf?_eq_some_iff.mp hfound).1

theorem mem_toList_iff {pair : Text × Text} :
    pair ∈ vars.toList ↔ ⟨pair.1, pair.2⟩ ∈ vars.entries := by
  rw [toList, List.mem_map]
  constructor
  · rintro ⟨entry, hmem, rfl⟩
    exact hmem
  · intro hmem
    exact ⟨_, hmem, rfl⟩

/-- States are the same if they list the same spellings with the same values. -/
theorem same_iff_mem_toList :
    first.same second = true ↔ ∀ pair, pair ∈ first.toList ↔ pair ∈ second.toList := by
  simp only [same_iff_mem, mem_toList_iff]
  constructor
  · intro h pair
    exact h ⟨pair.1, pair.2⟩
  · intro h entry
    exact h (entry.name, entry.value)

theorem same_equivalence :
    Equivalence fun first second : Variables => first.same second = true where
  refl _ := same_iff_perm.mpr (.refl _)
  symm h := same_iff_perm.mpr (same_iff_perm.mp h).symm
  trans h h' := same_iff_perm.mpr ((same_iff_perm.mp h).trans (same_iff_perm.mp h'))

/-! ## Operations on states that are the same -/

theorem same_set (h : first.same second = true) (name value : Text) :
    (first.set name value).same (second.set name value) = true := by
  rw [same_iff_entryOf?] at h ⊢
  intro other
  rw [entryOf?_set, entryOf?_set, h, h]

theorem same_remove (h : first.same second = true) (name : Text) :
    (first.remove name).2.same (second.remove name).2 = true := by
  rw [remove_eq, remove_eq]
  rw [same_iff_entryOf?] at h ⊢
  intro other
  rw [entryOf?_erase, entryOf?_erase, h]

theorem same_extend (h : first.same second = true) (pairs : List (Text × Text)) :
    (first.extend pairs).same (second.extend pairs) = true := by
  induction pairs generalizing first second with
  | nil => exact h
  | cons pair rest ih => exact ih (same_set h pair.1 pair.2)

/-- Each operation leaves states the same. -/
theorem same_apply (h : first.same second = true) (operation : Operation) :
    (operation.apply first).same (operation.apply second) = true := by
  cases operation with
  | set name value => exact same_set h name value
  | setInput value => exact same_set h inputName value
  | extend pairs => exact same_extend h pairs
  | remove name => exact same_remove h name

/-- Operations one after another leave states the same. -/
theorem same_run (h : first.same second = true) (operations : List Operation) :
    (first.run operations).same (second.run operations) = true := by
  induction operations generalizing first second with
  | nil => exact h
  | cons operation rest ih => exact ih (same_apply h operation)

theorem get?_of_same (h : first.same second = true) (name : Text) :
    first.get? name = second.get? name := by
  rw [get?_eq_entryOf?, get?_eq_entryOf?, same_iff_entryOf?.mp h]

/-! ## Values in another order -/

/-- Values for different names can be set in either order. -/
theorem same_set_set (vars : Variables) {pair other : Text × Text}
    (hne : pair.1.sameName other.1 = false) :
    ((vars.set pair.1 pair.2).set other.1 other.2).same
      ((vars.set other.1 other.2).set pair.1 pair.2) = true := by
  have hne' : other.1.sameName pair.1 = false := by rwa [Text.sameName_comm]
  rw [same_iff_entryOf?]
  intro name
  simp only [entryOf?_set, hne, hne', Bool.false_eq_true, if_false]
  by_cases hname : pair.1.sameName name = true
  · have hother : other.1.sameName name = false := by
      rwa [Text.sameName_comm, ← Text.sameName_congr hname]
    simp [hname, hother]
  · simp [hname]

/-- Setting values for different names in another order comes to the same. -/
theorem same_extend_of_perm (hperm : pairs.Perm others)
    (hdistinct : pairs.Pairwise fun pair other => ¬ pair.1.Recased other.1) (vars : Variables) :
    (vars.extend pairs).same (vars.extend others) = true := by
  induction hperm generalizing vars with
  | nil => exact same_equivalence.refl vars
  | cons pair _ ih => exact ih (List.pairwise_cons.mp hdistinct).2 (vars.set pair.1 pair.2)
  | swap pair other rest =>
      have hne := (List.pairwise_cons.mp hdistinct).1 pair List.mem_cons_self
      rw [← Text.sameName_iff_recased, Bool.not_eq_true] at hne
      exact same_extend (same_set_set vars hne) rest
  | trans hfirst _ ih ih' =>
      have hsymm {pair other : Text × Text} (h : ¬ pair.1.Recased other.1) :
          ¬ other.1.Recased pair.1 := by
        rwa [← Text.sameName_iff_recased, Text.sameName_comm, Text.sameName_iff_recased]
      exact same_equivalence.trans (ih hdistinct vars)
        (ih' (hfirst.pairwise hdistinct hsymm) vars)

/-! ## Values set once more -/

/-- A value that is set last for a name is its value. -/
theorem get?_extend (vars : Variables) (pairs : List (Text × Text)) (name : Text) :
    (vars.extend pairs).get? name =
      ((pairs.reverse.find? fun pair => pair.1.sameName name).map Prod.snd).or
        (vars.get? name) := by
  induction pairs generalizing vars with
  | nil => rfl
  | cons pair rest ih =>
      have hextend : vars.extend (pair :: rest) = (vars.set pair.1 pair.2).extend rest := rfl
      rw [hextend, ih, get?_set, List.reverse_cons, List.find?_append, List.find?_singleton]
      cases rest.reverse.find? fun pair => pair.1.sameName name with
      | some last => rfl
      | none => cases pair.1.sameName name <;> rfl

theorem names_extend_of_contains (hset : ∀ pair ∈ pairs, vars.contains pair.1 = true) :
    (vars.extend pairs).names = vars.names := by
  induction pairs generalizing vars with
  | nil => rfl
  | cons pair rest ih =>
      obtain ⟨hpair, hrest⟩ := List.forall_mem_cons.mp hset
      have hextend : vars.extend (pair :: rest) = (vars.set pair.1 pair.2).extend rest := rfl
      have hname : ¬ vars.get? pair.1 = none := Option.isSome_iff_ne_none.mp hpair
      rw [hextend, ih, names_set, if_neg hname]
      intro other hmem
      rw [contains_set, hrest other hmem, Bool.or_true]

theorem contains_extend {pair : Text × Text} (hmem : pair ∈ pairs) (vars : Variables) :
    (vars.extend pairs).contains pair.1 = true := by
  have hfound : (pairs.reverse.find? fun other => other.1.sameName pair.1).isSome = true :=
    List.find?_isSome.mpr ⟨pair, List.mem_reverse.mpr hmem, Text.sameName_refl pair.1⟩
  rw [contains, get?_extend, Option.isSome_or, Option.isSome_map, hfound, Bool.true_or]

theorem entries_eq (vars : Variables) :
    vars.entries = vars.names.map fun name => ⟨name, (vars.get? name).getD []⟩ := by
  rw [names, List.map_map]
  conv_lhs => rw [← List.map_id vars.entries]
  apply List.map_congr_left
  intro entry hmem
  have hvalue : vars.get? entry.name = some entry.value :=
    get?_eq_some_iff.mpr ⟨entry, hmem, Text.sameName_refl entry.name, rfl⟩
  simp [hvalue]

/-- States with the same names in the same order and with the same values are one state. -/
theorem eq_of_names (hnames : first.names = second.names)
    (hvalues : ∀ name, first.get? name = second.get? name) : first = second := by
  have hentries : first.entries = second.entries := by
    rw [first.entries_eq, second.entries_eq, hnames]
    simp only [hvalues]
  cases first
  cases second
  cases hentries
  rfl

theorem extend_extend_self (vars : Variables) (pairs : List (Text × Text)) :
    (vars.extend pairs).extend pairs = vars.extend pairs := by
  apply eq_of_names
  · exact names_extend_of_contains fun pair hmem => contains_extend hmem vars
  · intro name
    rw [get?_extend, get?_extend, ← Option.or_assoc, Option.or_self]

/-- Two states compare as the same exactly if they list the same spellings with the same values, in
whatever order. This is an equivalence, and no operation leads out of it: states that are the same
answer every question alike, a removal included, and after the same operations they are the same
again. Pairs of different names can be set in any order. Setting pairs a second time changes nothing
at all, the order of the names included. -/
theorem operations_respect_same :
    (∀ first second : Variables, first.same second = true ↔
      ∀ pair, pair ∈ first.toList ↔ pair ∈ second.toList) ∧
    (Equivalence fun first second : Variables => first.same second = true) ∧
    (∀ first second : Variables, first.same second = true →
      (∀ name, first.get? name = second.get? name ∧
        first.contains name = second.contains name ∧
        (first.remove name).1 = (second.remove name).1) ∧
      first.input = second.input ∧ first.size = second.size ∧ first.isEmpty = second.isEmpty ∧
      (∀ operation : Operation, (operation.apply first).same (operation.apply second) = true) ∧
      ∀ operations, (first.run operations).same (second.run operations) = true) ∧
    (∀ (vars : Variables) (pairs others : List (Text × Text)), pairs.Perm others →
      (pairs.Pairwise fun pair other => ¬ pair.1.Recased other.1) →
      (vars.extend pairs).same (vars.extend others) = true) ∧
    ∀ (vars : Variables) (pairs : List (Text × Text)),
      (vars.extend pairs).extend pairs = vars.extend pairs := by
  refine ⟨fun _ _ => same_iff_mem_toList, same_equivalence, ?_, ?_, extend_extend_self⟩
  · intro first second h
    have hget := get?_of_same h
    have hperm := same_iff_perm.mp h
    refine ⟨fun name => ⟨hget name, ?_, ?_⟩, ?_, hperm.length_eq, hperm.isEmpty_eq, same_apply h,
      same_run h⟩
    · rw [contains, contains, hget]
    · rw [remove_eq, remove_eq, hget]
    · rw [input, input, hget]
  · intro vars pairs others hperm hdistinct
    exact same_extend_of_perm hperm hdistinct vars

/-- Two states list `A` and `b` in either order. They are the same, and stay so when `B` is taken
out and `a` is set. A third state is no other for being filled with `a` and `c` in another order. -/
theorem operations_respect_same_reordered :
    ∃ (first second third : Variables) (pairs others : List (Text × Text))
      (operations : List Operation),
      first.toList = [(['A'], ['1']), (['b'], ['2'])] ∧
      second.toList = [(['b'], ['2']), (['A'], ['1'])] ∧
      third.toList = [(['A'], ['1'])] ∧
      pairs = [(['a'], ['3']), (['c'], ['4'])] ∧ others = [(['c'], ['4']), (['a'], ['3'])] ∧
      operations = [.remove ['B'], .set ['a'] ['3']] ∧
      first.same second = true ∧ pairs.Perm others ∧
      (pairs.Pairwise fun pair other => ¬ pair.1.Recased other.1) ∧
      first.get? ['a'] = second.get? ['a'] ∧
      (first.run operations).same (second.run operations) = true ∧
      (third.extend pairs).same (third.extend others) = true := by
  let first := ofList [(['A'], ['1']), (['b'], ['2'])]
  let second := ofList [(['b'], ['2']), (['A'], ['1'])]
  let third := ofList [(['A'], ['1'])]
  let pairs : List (Text × Text) := [(['a'], ['3']), (['c'], ['4'])]
  let operations : List Operation := [.remove ['B'], .set ['a'] ['3']]
  have hsame : first.same second = true := by decide
  have hperm : pairs.Perm [(['c'], ['4']), (['a'], ['3'])] := .swap _ _ _
  have hdistinct : pairs.Pairwise fun pair other => ¬ pair.1.Recased other.1 := by decide
  obtain ⟨-, -, hrespects, hreorders, -⟩ := operations_respect_same
  obtain ⟨hanswers, -, -, -, -, hruns⟩ := hrespects first second hsame
  exact ⟨first, second, third, pairs, _, operations, by decide, by decide, by decide, rfl, rfl, rfl,
    hsame, hperm, hdistinct, (hanswers ['a']).1, hruns operations,
    hreorders third pairs _ hperm hdistinct⟩

/-- Two spellings of one name are told apart, although both are found under either. -/
example :
    (ofList [(['A'], ['1'])]).same (ofList [(['a'], ['1'])]) = false ∧
      (ofList [(['A'], ['1'])]).get? ['a'] = (ofList [(['a'], ['1'])]).get? ['a'] := by
  decide

end Variables

end Stencil
