import Stencil.Text.Basic

/-! # Dates and times

Dates, times of day, and both together, perhaps with a distance from universal
time. They are checked against the calendar and written in one form: `T` between
date and time, `Z` for universal time, and at most nine digits of a second,
without the zeros at their end.
-/

namespace Stencil.Toml

def twoDigits? : Text → Option (Nat × Text)
  | a :: b :: rest =>
    if a.isDigit && b.isDigit then
      some (10 * (a.toNat - '0'.toNat) + (b.toNat - '0'.toNat), rest)
    else none
  | _ => none

def twoDigits (n : Nat) : Text :=
  if n < 10 then '0' :: Text.decimal n else Text.decimal n

def daysIn (year month : Nat) : Nat :=
  if month = 2 then
    if year % 4 = 0 ∧ (year % 100 ≠ 0 ∨ year % 400 = 0) then 29 else 28
  else if month = 4 ∨ month = 6 ∨ month = 9 ∨ month = 11 then 30
  else 31

/-- A date, in the form in which it is written, and the text after it. -/
def date? (text : Text) : Option (Text × Text) := do
  let (century, rest) ← twoDigits? text
  let (year, rest) ← twoDigits? rest
  let rest ← match rest with
    | '-' :: rest => some rest
    | _ => none
  let (month, rest) ← twoDigits? rest
  let rest ← match rest with
    | '-' :: rest => some rest
    | _ => none
  let (day, rest) ← twoDigits? rest
  if 1 ≤ month ∧ month ≤ 12 ∧ 1 ≤ day ∧ day ≤ daysIn (100 * century + year) month then
    return (twoDigits century ++ twoDigits year ++ '-' :: twoDigits month ++
      '-' :: twoDigits day, rest)
  else none

/-- The digits of a fraction of a second in the form in which they are written. -/
def fractionOfSecond (digits : Text) : Text :=
  match ((digits.take 9).reverse.dropWhile (· == '0')).reverse with
  | [] => ['0']
  | kept => kept

def subsecond? : Text → Option (Text × Text)
  | '.' :: rest =>
    match rest.takeWhile Char.isDigit with
    | [] => none
    | digits => some ('.' :: fractionOfSecond digits, rest.dropWhile Char.isDigit)
  | rest => some ([], rest)

def seconds? : Text → Option (Text × Text)
  | ':' :: rest => do
    let (second, rest) ← twoDigits? rest
    if second ≤ 60 then
      let (fraction, rest) ← subsecond? rest
      return (':' :: twoDigits second ++ fraction, rest)
    else none
  | rest => some ([], rest)

/-- A time of day, in the form in which it is written, and the text after it. -/
def time? (text : Text) : Option (Text × Text) := do
  let (hour, rest) ← twoDigits? text
  let rest ← match rest with
    | ':' :: rest => some rest
    | _ => none
  let (minute, rest) ← twoDigits? rest
  let (seconds, rest) ← seconds? rest
  if hour ≤ 23 ∧ minute ≤ 59 then
    return (twoDigits hour ++ ':' :: twoDigits minute ++ seconds, rest)
  else none

/-- A distance from universal time in hours and minutes, after its sign. -/
def distance? (sign : Char) (text : Text) : Option Text := do
  let (hours, rest) ← twoDigits? text
  let (minutes, rest) ← match rest with
    | ':' :: rest => twoDigits? rest
    | _ => none
  if rest.isEmpty ∧ hours ≤ 23 ∧ minutes ≤ 59 then
    let sign := if hours = 0 ∧ minutes = 0 then '+' else sign
    return sign :: twoDigits hours ++ ':' :: twoDigits minutes
  else none

/-- What may follow date and time: nothing, a mark of universal time, or a distance from it. -/
def offset? : Text → Option Text
  | [] => some []
  | ['Z'] => some ['Z']
  | ['z'] => some ['Z']
  | '+' :: rest => distance? '+' rest
  | '-' :: rest => distance? '-' rest
  | _ => none

/-- Reads a text as a date, a time of day, or both, and gives the form in which it is written. -/
def moment? (text : Text) : Option Text :=
  match date? text with
  | some (date, []) => some date
  | some (date, c :: rest) =>
    if c = 'T' ∨ c = 't' ∨ c = ' ' then do
      let (time, rest) ← time? rest
      return date ++ 'T' :: time ++ (← offset? rest)
    else none
  | none => do
    let (time, rest) ← time? text
    if rest.isEmpty then return time else none

end Stencil.Toml
