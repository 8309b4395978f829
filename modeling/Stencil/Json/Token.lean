import Stencil.Number.Decimal
import Stencil.Value

/-! # Tokens of JSON

A JSON text is cut into marks, words, numerals and strings. A string with an
unpaired half of a surrogate pair, and a numeral out of range, are tokens
without a value. Whatever is no token makes the whole text ill-formed.
-/

namespace Stencil.Json

/-- A token. -/
inductive Token where
  | openList
  | closeList
  | openObject
  | closeObject
  | comma
  | colon
  | string (s : Option Text)
  | scalar (value : Value)

def isSpace (c : Char) : Bool := c == ' ' || c == '\n' || c == '\t' || c == '\r'

/-! ## Strings -/

/-- One item of a string as written: a character, or a 16-bit unit given by its number. -/
inductive Unit16 where
  | char (c : Char)
  | escaped (n : Nat)

/-- The items of a string up to its closing quote, and the text after that. -/
def stringItems : Text → Option (List Unit16 × Text)
  | [] => none
  | '"' :: rest => some ([], rest)
  | '\\' :: 'u' :: a :: b :: c :: d :: rest => do
    let n ← Text.digitsValue? 16 [a, b, c, d]
    let (items, after) ← stringItems rest
    return (.escaped n :: items, after)
  | '\\' :: c :: rest => do
    let plain ← match c with
      | '"' => some '"'
      | '\\' => some '\\'
      | '/' => some '/'
      | 'b' => some (Char.ofNat 8)
      | 'f' => some (Char.ofNat 12)
      | 'n' => some '\n'
      | 'r' => some '\r'
      | 't' => some '\t'
      | _ => none
    let (items, after) ← stringItems rest
    return (.char plain :: items, after)
  | c :: rest =>
    if c.toNat < 0x20 ∨ c = '\\' then none
    else do
      let (items, after) ← stringItems rest
      return (.char c :: items, after)

/-- The text that the items of a string stand for, if every surrogate is in a pair. -/
def textOfItems? : List Unit16 → Option Text
  | [] => some []
  | .char c :: rest => (textOfItems? rest).map (c :: ·)
  | .escaped n :: rest =>
    if 0xD800 ≤ n ∧ n < 0xDC00 then
      match rest with
      | .escaped m :: rest =>
        if 0xDC00 ≤ m ∧ m < 0xE000 then
          (textOfItems? rest).map
            (Char.ofNat (0x10000 + (n - 0xD800) * 0x400 + (m - 0xDC00)) :: ·)
        else none
      | _ => none
    else if 0xDC00 ≤ n ∧ n < 0xE000 then none
    else (textOfItems? rest).map (Char.ofNat n :: ·)

/-! ## Numerals -/

/-- A numeral as written: its sign, the digits before the point, the digits after it, and the sign
and digits of its exponent. -/
structure Numeral where
  negative : Bool
  whole : Text
  fraction : Option Text
  exponent : Option (Bool × Text)

namespace Numeral

/-- Digits read into a significand as long as it fits into 64 bits, with the digits left over. -/
def accumulate (significand : Nat) : Text → Nat × Text
  | [] => (significand, [])
  | c :: rest =>
    let next := significand * 10 + (c.toNat - '0'.toNat)
    if next < Decimal.significandBound then accumulate next rest else (significand, c :: rest)

def exponentBound : Nat := Nat.pow 2 31

def saturate (exponent : Int) : Int :=
  max (-(exponentBound : Int)) (min ((exponentBound : Int) - 1) exponent)

/-- The value of a numeral with a point or an exponent, or with more digits than 64 bits hold. -/
def real? (numeral : Numeral) : Option Binary64 :=
  let (start, dropped) := accumulate 0 numeral.whole
  let (significand, unread) := accumulate start (numeral.fraction.getD [])
  let read := (numeral.fraction.getD []).length - unread.length
  let place : Int := (dropped.length : Int) - read
  match numeral.exponent with
  | none => Decimal.scaled? numeral.negative significand place
  | some (down, digits) =>
    let exponent := Decimal.value digits
    if exponent < exponentBound then
      Decimal.scaled? numeral.negative significand
        (saturate (if down then place - exponent else place + exponent))
    else if significand = 0 ∨ down then some ⟨numeral.negative, 0⟩
    else none

/-- The value of a numeral: an integer if it is written as one and fits into 64 bits, with a sign or
without; otherwise a binary64 number. -/
def toValue (numeral : Numeral) : Value :=
  let n := Decimal.value numeral.whole
  let inexact : Value :=
    match numeral.real? with
    | some x => .real x
    | none => .unreadable
  if numeral.fraction.isSome || numeral.exponent.isSome then inexact
  else if numeral.negative then
    if 0 < n ∧ n ≤ Nat.pow 2 63 then .integer (-(n : Int)) else inexact
  else if n < Nat.pow 2 64 then .integer n
  else inexact

end Numeral

/-- The digits that a text starts with, if there are any, and the text after them. -/
def digits? (text : Text) : Option (Text × Text) :=
  match text.takeWhile Char.isDigit with
  | [] => none
  | digits => some (digits, text.dropWhile Char.isDigit)

/-- The digits after a point, if the text starts with a point. -/
def fraction? : Text → Option (Option Text × Text)
  | '.' :: rest => (digits? rest).map fun (digits, after) => (some digits, after)
  | text => some (none, text)

def exponent? : Text → Option (Option (Bool × Text) × Text)
  | [] => some (none, [])
  | c :: rest =>
    if c = 'e' ∨ c = 'E' then
      let (down, rest) := Decimal.signed rest
      (digits? rest).map fun (digits, after) => (some (down, digits), after)
    else some (none, c :: rest)

def whole? : Text → Option (Text × Text)
  | '0' :: rest =>
    match rest with
    | [] => some (['0'], [])
    | c :: _ => if c.isDigit then none else some (['0'], rest)
  | text => digits? text

def numeral? (negative : Bool) (text : Text) : Option (Numeral × Text) := do
  let (whole, rest) ← whole? text
  let (fraction, rest) ← fraction? rest
  let (exponent, rest) ← exponent? rest
  return (⟨negative, whole, fraction, exponent⟩, rest)

/-! ## Tokens -/

/-- The token that starts with `c` and the text after it. -/
def next? (c : Char) (rest : Text) : Option (Token × Text) :=
  match c, rest with
  | '[', _ => some (.openList, rest)
  | ']', _ => some (.closeList, rest)
  | '{', _ => some (.openObject, rest)
  | '}', _ => some (.closeObject, rest)
  | ',', _ => some (.comma, rest)
  | ':', _ => some (.colon, rest)
  | 't', 'r' :: 'u' :: 'e' :: rest => some (.scalar (.bool true), rest)
  | 'f', 'a' :: 'l' :: 's' :: 'e' :: rest => some (.scalar (.bool false), rest)
  | 'n', 'u' :: 'l' :: 'l' :: rest => some (.scalar .null, rest)
  | '"', _ => (stringItems rest).map fun (items, after) => (.string (textOfItems? items), after)
  | '-', _ => (numeral? true rest).map fun (n, after) => (.scalar n.toValue, after)
  | _, _ => (numeral? false (c :: rest)).map fun (n, after) => (.scalar n.toValue, after)

/-- The tokens of a text, if it is made of tokens and blanks. Each step takes at least one
character, so as many steps as there are characters are enough. -/
def tokensWithin : Nat → Text → Option (List Token)
  | _, [] => some []
  | 0, _ :: _ => none
  | steps + 1, c :: rest =>
    if isSpace c then tokensWithin steps rest
    else do
      let (token, after) ← next? c rest
      return token :: (← tokensWithin steps after)

def tokens? (text : Text) : Option (List Token) := tokensWithin text.length text

end Stencil.Json
