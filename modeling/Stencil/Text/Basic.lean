/-! # Text

Templates, names and values are finite sequences of Unicode characters. Places
in a text are counted in bytes of its UTF-8 form, so every length that reaches
a reader of a message is a `byteLength`.
-/

namespace Stencil

/-- A piece of text: the list of its characters. -/
abbrev Text := List Char

namespace Text

def byteLength : Text → Nat
  | [] => 0
  | c :: rest => c.utf8Size + byteLength rest

@[simp] theorem byteLength_nil : byteLength [] = 0 := rfl

@[simp] theorem byteLength_cons (c : Char) (rest : Text) :
    byteLength (c :: rest) = c.utf8Size + byteLength rest := rfl

@[simp] theorem byteLength_append (first second : Text) :
    byteLength (first ++ second) = byteLength first + byteLength second := by
  induction first with
  | nil => simp
  | cons c rest ih => simp [ih, Nat.add_assoc]

/-- The byte length of a text is that of the string of its characters. -/
theorem byteLength_eq_utf8ByteSize (text : Text) :
    byteLength text = (String.ofList text).utf8ByteSize := by
  induction text with
  | nil => simp
  | cons c rest ih => simp [String.ofList_cons, ih]

def decimal (n : Nat) : Text := Nat.toDigits 10 n

/-- The lower-case hexadecimal digits of a number, without leading zeros. -/
def hexadecimal (n : Nat) : Text := Nat.toDigits 16 n

/-- The number that a hexadecimal digit of either case stands for. -/
def hexDigit? (c : Char) : Option Nat :=
  if '0' ≤ c ∧ c ≤ '9' then some (c.toNat - '0'.toNat)
  else if 'a' ≤ c ∧ c ≤ 'f' then some (c.toNat - 'a'.toNat + 10)
  else if 'A' ≤ c ∧ c ≤ 'F' then some (c.toNat - 'A'.toNat + 10)
  else none

/-- The number that digits stand for in a base of at most sixteen, the highest digit first. -/
def digitsValue? (base : Nat) (digits : Text) : Option Nat :=
  (digits.mapM hexDigit?).map fun values => values.foldl (fun n d => base * n + d) 0

/-- The texts written one after another with `separator` between them. -/
def joined (separator : Text) : List Text → Text
  | [] => []
  | [last] => last
  | first :: rest => first ++ separator ++ joined separator rest

/-- The text continued with blanks until it has at least `width` characters. -/
def padded (width : Nat) (text : Text) : Text :=
  text ++ List.replicate (width - text.length) ' '

end Text

/-- A stretch of a text: where it starts and how long it is, in bytes. -/
structure Span where
  start : Nat
  length : Nat
deriving DecidableEq

namespace Span

def stop (span : Span) : Nat := span.start + span.length

/-- The stretch from the start of one span to the end of a later one. -/
def through (first last : Span) : Span := ⟨first.start, last.stop - first.start⟩

/-- The same stretch in a text that has `count` more bytes in front. -/
def shift (count : Nat) (span : Span) : Span := ⟨count + span.start, span.length⟩

end Span

end Stencil
