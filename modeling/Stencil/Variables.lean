import Stencil.Name

/-! # Variables

The named texts a template is rendered with, in the order in which they were
first set. Names count as equal up to the case of ASCII letters: the first
spelling of a name is kept, and a later value takes the place of an earlier one.
No two entries have the same name, which is part of the type.
-/

namespace Stencil

/-- A named value. -/
structure Entry where
  name : Text
  value : Text
deriving DecidableEq

namespace Entry

def key (entry : Entry) : Text := entry.name.fold

def lookup? (name : Text) : List Entry → Option Text
  | [] => none
  | entry :: rest =>
    if entry.name.sameName name then some entry.value else lookup? name rest

/-- The entries with a value written to a name, in place if the name is there already. -/
def write (name value : Text) : List Entry → List Entry
  | [] => [⟨name, value⟩]
  | entry :: rest =>
    if entry.name.sameName name then ⟨entry.name, value⟩ :: rest
    else entry :: write name value rest

def erase (name : Text) (entries : List Entry) : List Entry :=
  entries.filter fun entry => !entry.name.sameName name

/-- Takes the entry of a name out: its value, and the entries that stay. -/
def takeOut (name : Text) : List Entry → Option Text × List Entry
  | [] => (none, [])
  | entry :: rest =>
    if entry.name.sameName name then (some entry.value, rest)
    else ((takeOut name rest).1, entry :: (takeOut name rest).2)

/-- Writing keeps the keys, and adds the one written if it is new. -/
theorem key_write (name value : Text) (entries : List Entry) :
    (write name value entries).map key =
      if name.fold ∈ entries.map key then entries.map key
      else entries.map key ++ [name.fold] := by
  induction entries with
  | nil => simp [write, key]
  | cons entry rest ih =>
    unfold write
    split
    next h =>
      -- the name is this entry's: it keeps its place and its key
      have h' : entry.name.fold = name.fold := Text.sameName_iff.mp h
      simp [key, h']
    next h =>
      have h' : ¬ name.fold = entry.name.fold := fun e => h (Text.sameName_iff.mpr e.symm)
      simp only [List.map_cons, ih, List.mem_cons, key, h', false_or]
      split <;> simp [*]

theorem nodup_write {name value : Text} {entries : List Entry}
    (h : (entries.map key).Nodup) : ((write name value entries).map key).Nodup := by
  rw [key_write]
  split
  next => exact h
  next hnot =>
    rw [List.nodup_append]
    refine ⟨h, by simp, ?_⟩
    intro a ha b hb heq
    simp only [List.mem_singleton] at hb
    exact hnot (hb ▸ heq ▸ ha)

theorem nodup_erase {name : Text} {entries : List Entry}
    (h : (entries.map key).Nodup) : ((erase name entries).map key).Nodup :=
  h.sublist (List.filter_sublist.map key)

theorem takeOut_sublist (name : Text) (entries : List Entry) :
    (takeOut name entries).2.Sublist entries := by
  induction entries with
  | nil => exact List.nil_sublist []
  | cons entry rest ih =>
    unfold takeOut
    split
    next => exact List.sublist_cons_self entry rest
    next => exact ih.cons_cons entry

end Entry

/-- The variables of a rendering. -/
structure Variables where
  entries : List Entry
  distinct : (entries.map Entry.key).Nodup

namespace Variables

def inputName : Text := "input".toList

def empty : Variables := ⟨[], List.nodup_nil⟩

def get? (vars : Variables) (name : Text) : Option Text :=
  Entry.lookup? name vars.entries

def contains (vars : Variables) (name : Text) : Bool := (vars.get? name).isSome

/-- The variables with a value set: in place if the name is there, at the end otherwise. -/
def set (vars : Variables) (name value : Text) : Variables :=
  ⟨Entry.write name value vars.entries, Entry.nodup_write vars.distinct⟩

def erase (vars : Variables) (name : Text) : Variables :=
  ⟨Entry.erase name vars.entries, Entry.nodup_erase vars.distinct⟩

/-- The value of a name, and the variables without it; the others keep their order. -/
def remove (vars : Variables) (name : Text) : Option Text × Variables :=
  ((Entry.takeOut name vars.entries).1,
    ⟨(Entry.takeOut name vars.entries).2,
      vars.distinct.sublist ((Entry.takeOut_sublist name vars.entries).map Entry.key)⟩)

def extend (vars : Variables) (pairs : List (Text × Text)) : Variables :=
  pairs.foldl (fun result pair => result.set pair.1 pair.2) vars

/-- The variables that result from setting values one after another. -/
def ofList (pairs : List (Text × Text)) : Variables := empty.extend pairs

def toList (vars : Variables) : List (Text × Text) :=
  vars.entries.map fun entry => (entry.name, entry.value)

def size (vars : Variables) : Nat := vars.entries.length

def isEmpty (vars : Variables) : Bool := vars.entries.isEmpty

def input (vars : Variables) : Text := (vars.get? inputName).getD []

def setInput (vars : Variables) (value : Text) : Variables := vars.set inputName value

/-- Whether two states hold the same spellings and values, in whatever order. -/
def same (first second : Variables) : Bool :=
  first.size == second.size && first.entries.all fun entry => second.entries.contains entry

end Variables

end Stencil
