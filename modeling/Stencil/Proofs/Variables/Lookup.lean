import Stencil.Variables

/-! # The value of a name

Names that differ in the case of letters alone have one value, which is that of the only
entry of that name. A value that is set is the one that is read, until another is set.
-/

namespace Stencil

namespace Text

/-- One name in two spellings is the same as the same names. -/
theorem sameName_congr {first second : Text} (h : sameName first second = true) (other : Text) :
    sameName first other = sameName second other := by
  rw [sameName, sameName, sameName_iff.mp h]

theorem sameName_congr_right {first second : Text} (h : sameName first second = true)
    (other : Text) : sameName other first = sameName other second := by
  rw [sameName_comm, sameName_congr h, sameName_comm]

theorem not_sameName_comm (first second : Text) :
    (!sameName first second) = decide (sameName second first = false) := by
  rw [sameName_comm]
  cases sameName second first <;> rfl

end Text

namespace Entry

theorem lookup?_cons (entry : Entry) (rest : List Entry) (name : Text) :
    lookup? name (entry :: rest) =
      if entry.name.sameName name then some entry.value else lookup? name rest := rfl

/-- Writing changes the value of one name. -/
theorem lookup?_write (name value : Text) (entries : List Entry) (other : Text) :
    lookup? other (write name value entries) =
      if name.sameName other then some value else lookup? other entries := by
  induction entries with
  | nil => rfl
  | cons entry rest ih =>
      rw [write]
      by_cases hname : entry.name.sameName name = true
      · rw [if_pos hname, lookup?_cons, lookup?_cons, Text.sameName_congr hname]
        by_cases hother : name.sameName other = true
        · rw [if_pos hother, if_pos hother]
        · rw [if_neg hother, if_neg hother, if_neg hother]
      · rw [if_neg hname, lookup?_cons, lookup?_cons, ih]
        by_cases hother : name.sameName other = true
        · have hentry : ¬ entry.name.sameName other = true := by
            rwa [← Text.sameName_congr_right hother]
          rw [if_neg hentry, if_pos hother, if_pos hother]
        · rw [if_neg hother, if_neg hother]

/-- A value that is found belongs to an entry of that name. -/
theorem exists_of_lookup? {name value : Text} {entries : List Entry}
    (h : lookup? name entries = some value) :
    ∃ entry ∈ entries, entry.name.sameName name = true ∧ entry.value = value := by
  induction entries with
  | nil => cases h
  | cons entry rest ih =>
      rw [lookup?_cons] at h
      by_cases hname : entry.name.sameName name = true
      · rw [if_pos hname] at h
        exact ⟨entry, List.mem_cons_self, hname, Option.some.inj h⟩
      · rw [if_neg hname] at h
        obtain ⟨found, hmem, hfound⟩ := ih h
        exact ⟨found, List.mem_cons_of_mem _ hmem, hfound⟩

/-- Of entries with different names the one of a name is found. -/
theorem lookup?_of_mem {name : Text} {entries : List Entry} (hdistinct : (entries.map key).Nodup)
    {entry : Entry} (hmem : entry ∈ entries) (hname : entry.name.sameName name = true) :
    lookup? name entries = some entry.value := by
  induction entries with
  | nil => cases hmem
  | cons first rest ih =>
      rw [List.map_cons, List.nodup_cons] at hdistinct
      rw [lookup?_cons]
      rcases List.mem_cons.mp hmem with rfl | hrest
      · rw [if_pos hname]
      · have hfirst : ¬ first.name.sameName name = true := by
          intro hsame
          have hkey : entry.key = first.key :=
            (Text.sameName_iff.mp hname).trans (Text.sameName_iff.mp hsame).symm
          exact hdistinct.1 (hkey ▸ List.mem_map_of_mem hrest)
        rw [if_neg hfirst]
        exact ih hdistinct.2 hrest

end Entry

namespace Variables

variable {vars : Variables} {name value : Text}

/-- The value of a name is that of the entry of that name. -/
theorem get?_eq_some_iff :
    vars.get? name = some value ↔
      ∃ entry ∈ vars.entries, entry.name.sameName name = true ∧ entry.value = value := by
  constructor
  · exact Entry.exists_of_lookup?
  · rintro ⟨entry, hmem, hname, rfl⟩
    exact Entry.lookup?_of_mem vars.distinct hmem hname

/-- A name has no value if no entry has that name. -/
theorem get?_eq_none_iff :
    vars.get? name = none ↔ ∀ entry ∈ vars.entries, entry.name.sameName name = false := by
  rw [Option.eq_none_iff_forall_ne_some]
  constructor
  · intro h entry hmem
    rw [← Bool.not_eq_true]
    intro hname
    exact h entry.value (get?_eq_some_iff.mpr ⟨entry, hmem, hname, rfl⟩)
  · intro h value hvalue
    obtain ⟨entry, hmem, hname, -⟩ := get?_eq_some_iff.mp hvalue
    rw [h entry hmem] at hname
    cases hname

theorem get?_set (vars : Variables) (name value other : Text) :
    (vars.set name value).get? other =
      if name.sameName other then some value else vars.get? other :=
  Entry.lookup?_write name value vars.entries other

theorem contains_set (vars : Variables) (name value other : Text) :
    (vars.set name value).contains other = (name.sameName other || vars.contains other) := by
  rw [contains, contains, get?_set]
  cases name.sameName other <;> simp

theorem extend_append (vars : Variables) (first second : List (Text × Text)) :
    vars.extend (first ++ second) = (vars.extend first).extend second := List.foldl_append

/-- Values set for other names leave a name as it is. -/
theorem get?_extend_of_other {pairs : List (Text × Text)}
    (hother : ∀ pair ∈ pairs, pair.1.sameName name = false) :
    (vars.extend pairs).get? name = vars.get? name := by
  induction pairs generalizing vars with
  | nil => rfl
  | cons pair rest ih =>
      obtain ⟨hfirst, hrest⟩ := List.forall_mem_cons.mp hother
      have hset := get?_set vars pair.1 pair.2 name
      rw [hfirst] at hset
      exact (ih hrest).trans hset

/-- Of several values set for a name the last one counts. -/
theorem get?_extend_of_last {before after : List (Text × Text)}
    (hlast : ∀ pair ∈ after, pair.1.sameName name = false) :
    (vars.extend (before ++ (name, value) :: after)).get? name = some value := by
  rw [List.append_cons, extend_append, get?_extend_of_other hlast, extend_append]
  have hset := get?_set (vars.extend before) name value name
  rw [Text.sameName_refl] at hset
  exact hset

end Variables

end Stencil
