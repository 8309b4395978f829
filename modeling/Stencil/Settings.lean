import Stencil.Value

/-! # Settings

The part of a configuration that is passed on unread: a table of values. Objects
in it are sorted by name, no name occurs twice, and every value has a JSON form.
A name written twice takes its last value; what is not finite becomes null.
-/

namespace Stencil

namespace Value

mutual

/-- Whether a value has a JSON form, with the members of every object sorted by name. -/
def isSettled : Value → Bool
  | .nonFinite => false
  | .unreadable => false
  | .malformed => false
  | .list items => areSettled items
  | .object members => membersSettled members
  | _ => true

def areSettled : List Value → Bool
  | [] => true
  | item :: rest => isSettled item && areSettled rest

/-- Whether the members of an object are settled and sorted. -/
def membersSettled : List (Text × Value) → Bool
  | [] => true
  | (name, value) :: rest =>
    isSettled value && (rest.all fun other => decide (name < other.1)) && membersSettled rest

end

/-- Sorted members with one more put in its place, unless its name is there already. -/
def insertMember (name : Text) (value : Value) : List (Text × Value) → List (Text × Value)
  | [] => [(name, value)]
  | other :: rest =>
    if name < other.1 then (name, value) :: other :: rest
    else if name = other.1 then other :: rest
    else other :: insertMember name value rest

mutual

/-- The settled form of a value, if everything in it has a value. -/
def settle? : Value → Option Value
  | .nonFinite => some .null
  | .unreadable => none
  | .malformed => none
  | .list items => (settleItems? items).map .list
  | .object members => (settleMembers? members).map .object
  | value => some value

def settleItems? : List Value → Option (List Value)
  | [] => some []
  | item :: rest => do return (← settle? item) :: (← settleItems? rest)

def settleMembers? : List (Text × Value) → Option (List (Text × Value))
  | [] => some []
  | (name, value) :: rest => do
    let value ← settle? value
    let rest ← settleMembers? rest
    return insertMember name value rest

end

theorem all_insertMember {p : Text → Bool} {name : Text} {value : Value}
    {members : List (Text × Value)} (hname : p name = true)
    (hall : (members.all fun other => p other.1) = true) :
    ((insertMember name value members).all fun other => p other.1) = true := by
  induction members with
  | nil => simp [insertMember, hname]
  | cons other rest ih =>
    simp only [List.all_cons, Bool.and_eq_true] at hall
    unfold insertMember
    split
    next => simp [hname, hall.1, hall.2]
    next =>
      split
      next => simp [hall.1, hall.2]
      next => simp [hall.1, ih hall.2]

theorem membersSettled_insertMember {name : Text} {value : Value}
    {members : List (Text × Value)} (hvalue : value.isSettled = true)
    (hmembers : membersSettled members = true) :
    membersSettled (insertMember name value members) = true := by
  induction members with
  | nil => simp [insertMember, membersSettled, hvalue]
  | cons other rest ih =>
    obtain ⟨key, v⟩ := other
    have hparts := hmembers
    simp only [membersSettled, Bool.and_eq_true] at hparts
    obtain ⟨⟨hv, hkeys⟩, hrest⟩ := hparts
    unfold insertMember
    split
    next hlt =>
      -- the new name precedes the first, and so all the others
      have hlower : (rest.all fun other => decide (name < other.1)) = true := by
        rw [List.all_eq_true] at hkeys ⊢
        intro other hmem
        exact decide_eq_true (List.lt_trans hlt (of_decide_eq_true (hkeys other hmem)))
      simp [membersSettled, hvalue, hv, hkeys, hrest, hlt, hlower]
    next hnlt =>
      split
      next => exact hmembers
      next hne =>
        -- the first name precedes the new one, wherever that goes
        have hlt : key < name := by
          rcases List.le_iff_lt_or_eq.mp (List.not_lt.mp hnlt) with h | h
          · exact h
          · exact absurd h.symm hne
        have hall : ((insertMember name value rest).all fun other => decide (key < other.1)) =
            true :=
          all_insertMember (p := fun other => decide (key < other)) (decide_eq_true hlt) hkeys
        simp only [membersSettled, hv, hall, ih hrest, Bool.and_self]

mutual

theorem isSettled_of_settle? (value : Value) {settled : Value}
    (h : settle? value = some settled) : settled.isSettled = true := by
  match value with
  | .nonFinite => cases h; rfl
  | .unreadable => cases h
  | .malformed => cases h
  | .list items =>
    obtain ⟨items', hitems, rfl⟩ := Option.map_eq_some_iff.mp h
    exact areSettled_of_settleItems? items hitems
  | .object members =>
    obtain ⟨members', hmembers, rfl⟩ := Option.map_eq_some_iff.mp h
    exact membersSettled_of_settleMembers? members hmembers
  | .null => cases h; rfl
  | .bool _ => cases h; rfl
  | .integer _ => cases h; rfl
  | .real _ => cases h; rfl
  | .string _ => cases h; rfl

theorem areSettled_of_settleItems? (items : List Value) {settled : List Value}
    (h : settleItems? items = some settled) : areSettled settled = true := by
  match items with
  | [] => cases h; rfl
  | item :: rest =>
    simp only [settleItems?, bind, Option.bind_eq_some_iff, pure, Option.some.injEq] at h
    obtain ⟨item', hitem, rest', hrest, rfl⟩ := h
    simp only [areSettled, isSettled_of_settle? item hitem,
      areSettled_of_settleItems? rest hrest, Bool.and_self]

theorem membersSettled_of_settleMembers? (members : List (Text × Value))
    {settled : List (Text × Value)} (h : settleMembers? members = some settled) :
    membersSettled settled = true := by
  match members with
  | [] => cases h; rfl
  | (name, value) :: rest =>
    simp only [settleMembers?, bind, Option.bind_eq_some_iff, pure, Option.some.injEq] at h
    obtain ⟨value', hvalue, rest', hrest, rfl⟩ := h
    exact membersSettled_insertMember (isSettled_of_settle? value hvalue)
      (membersSettled_of_settleMembers? rest hrest)

end

end Value

/-- A table of settings. -/
structure Settings where
  members : List (Text × Value)
  settled : Value.membersSettled members = true

namespace Settings

def empty : Settings := ⟨[], rfl⟩

/-- The settings that the members of an object make up, if everything in them has a value. -/
def ofMembers? (members : List (Text × Value)) : Option Settings :=
  match h : Value.settleMembers? members with
  | some result => some ⟨result, Value.membersSettled_of_settleMembers? members h⟩
  | none => none

def get? (settings : Settings) (name : Text) : Option Value :=
  (settings.members.find? fun member => member.1 == name).map Prod.snd

end Settings

end Stencil
