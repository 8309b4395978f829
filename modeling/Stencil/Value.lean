import Stencil.Number.Binary64
import Stencil.Text.Basic

/-! # Values

The trees that configuration files hold. Objects keep their members in written
order, repeated names included. Some things a file may write have no value, such
as a numeral out of range; they are kept as `unreadable`, so that a reader that
does not care for them can pass over them. What is `malformed` cannot be passed
over; it does no harm only where nothing is read at all.
-/

namespace Stencil

/-- A tree of values. -/
inductive Value where
  | null
  | bool (b : Bool)
  | integer (n : Int)
  | real (x : Binary64)
  | nonFinite
  | string (s : Text)
  | list (items : List Value)
  | object (members : List (Text × Value))
  | unreadable
  | malformed

namespace Value

mutual

def isSound : Value → Bool
  | .malformed => false
  | .list items => areSound items
  | .object members => membersSound members
  | _ => true

def areSound : List Value → Bool
  | [] => true
  | item :: rest => isSound item && areSound rest

def membersSound : List (Text × Value) → Bool
  | [] => true
  | (_, value) :: rest => isSound value && membersSound rest

end

end Value

end Stencil
