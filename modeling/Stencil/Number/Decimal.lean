import Stencil.Number.Binary64
import Stencil.Text.Basic

/-! # Decimal numerals

Numerals are read in two ways. `nearest?` finds the binary64 number nearest to
a decimal fraction. `scaled?` keeps only as many leading digits as fit into 64
bits and multiplies or divides by a power of ten, rounding each step, so its
last bit may differ. Numbers are written with the fewest digits that read back.
-/

namespace Stencil.Decimal

def value (digits : Text) : Nat :=
  digits.foldl (fun n c => n * 10 + (c.toNat - '0'.toNat)) 0

/-! ## Reading -/

/-- The sign that may stand before a number: whether it is a minus, and the text after it. -/
def signed : Text → Bool × Text
  | '-' :: rest => (true, rest)
  | '+' :: rest => (false, rest)
  | rest => (false, rest)

/-- The binary64 number nearest to `significand * 10 ^ exponent`, if it is finite. An exponent far
out of range is settled without computing its power. -/
def nearest? (negative : Bool) (significand : Nat) (exponent : Int) : Option Binary64 :=
  let digits : Int := (Text.decimal significand).length
  if significand = 0 ∨ exponent + digits < -400 then some ⟨negative, 0⟩
  else if exponent > 400 then none
  else
    match exponent with
    | .ofNat e => Binary64.ofUnits? negative (Binary64.ofNat (significand * Nat.pow 10 e))
    | .negSucc e =>
      Binary64.ofUnits? negative (Binary64.round (significand * Binary64.one) (Nat.pow 10 (e + 1)))

def significandBound : Nat := Nat.pow 2 64

/-- A size divided by a power of ten, at most `10 ^ 308` in each step. -/
def shrink (units exponent : Nat) : Nat :=
  if exponent ≤ 308 then Binary64.divide units (Binary64.powerOfTen exponent)
  else if units = 0 then 0
  else shrink (Binary64.divide units (Binary64.powerOfTen 308)) (exponent - 308)
termination_by exponent

/-- The number `significand * 10 ^ exponent`, rounded once for the significand and once for each
multiplication or division; `none` if it gets too large. -/
def scaled? (negative : Bool) (significand : Nat) (exponent : Int) : Option Binary64 :=
  let units := Binary64.ofNat significand
  match exponent with
  | .ofNat e =>
    if e ≤ 308 then Binary64.ofUnits? negative (Binary64.multiply units (Binary64.powerOfTen e))
    else if units = 0 then some ⟨negative, 0⟩
    else none
  | .negSucc e => Binary64.ofUnits? negative (shrink units (e + 1))

/-! ## Writing -/

/-- Whether the decimal `digits * 10 ^ exponent` rounds to the number of `units`. -/
def readsBack (units digits : Nat) (exponent : Int) : Bool :=
  let step := Binary64.gap units
  -- at a power of two the numbers below lie twice as close as those above
  let below := if units = Nat.pow 2 52 * step ∧ 1 < step then step else 2 * step
  let low := 4 * units - below
  let high := 4 * units + 2 * step
  let (point, scale) : Nat × Nat :=
    match exponent with
    | .ofNat e => (digits * Nat.pow 10 e * (4 * Binary64.one), 1)
    | .negSucc e => (digits * (4 * Binary64.one), Nat.pow 10 (e + 1))
  if units / step % 2 = 0 then low * scale ≤ point && point ≤ high * scale
  else low * scale < point && point < high * scale

/-- The number of digits that `units` has before the decimal point; it is negative by the number of
zeros after the point when there are such zeros. -/
def magnitude (units : Nat) : Int :=
  if Binary64.one ≤ units then (Text.decimal (units / Binary64.one)).length
  else 1 - ((Text.decimal ((Binary64.one - 1) / units)).length : Int)

/-- The two decimals with `exponent` on either side of a number of units, the nearer first, the even
one of two that are equally near. -/
def neighbours (units : Nat) (exponent : Int) : Nat × Nat :=
  let (numerator, denominator) : Nat × Nat :=
    match exponent with
    | .ofNat e => (units, Binary64.one * Nat.pow 10 e)
    | .negSucc e => (units * Nat.pow 10 (e + 1), Binary64.one)
  let lower := numerator / denominator
  if Binary64.nearest numerator denominator = lower then (lower, lower + 1)
  else (lower + 1, lower)

/-- The decimal of fewest digits that reads back as a positive number of units, the nearest of
those; `count` digits are tried first, and `left` longer decimals after that. -/
def shortestFrom (units count left : Nat) : Nat × Int :=
  let exponent := magnitude units - count
  let (nearer, farther) := neighbours units exponent
  if readsBack units nearer exponent then (nearer, exponent)
  else if readsBack units farther exponent then (farther, exponent)
  else
    match left with
    | 0 => (nearer, exponent)
    | left + 1 => shortestFrom units (count + 1) left

/-- The digits without the zeros they end with, and the exponent that makes up for them. -/
def stripZeros (digits : Text) (exponent : Int) : Text × Int :=
  let kept := (digits.reverse.dropWhile (· == '0')).reverse
  (kept, exponent + ((digits.length - kept.length : Nat) : Int))

def integer (n : Int) : Text :=
  match n with
  | .ofNat n => Text.decimal n
  | .negSucc n => '-' :: Text.decimal (n + 1)

def signedExponent (n : Int) : Text :=
  match n with
  | .ofNat n => '+' :: Text.decimal n
  | .negSucc n => '-' :: Text.decimal (n + 1)

/-- The digits `digits` with `exponent` zeros or places. From `1e-5` up to `1e16` the point is
where it belongs, with `.0` after a whole number; beyond, there is one digit before the point and an
exponent with its sign after `e`. -/
def layout (digits : Text) (exponent : Int) : Text :=
  let place : Int := digits.length + exponent
  if 0 ≤ exponent ∧ place ≤ 16 then
    digits ++ List.replicate exponent.toNat '0' ++ ['.', '0']
  else if 0 < place ∧ place ≤ 16 then
    digits.take place.toNat ++ '.' :: digits.drop place.toNat
  else if -5 < place ∧ place ≤ 0 then
    ['0', '.'] ++ List.replicate (-place).toNat '0' ++ digits
  else
    match digits with
    | [] => []
    | [d] => d :: 'e' :: signedExponent (place - 1)
    | d :: rest => d :: '.' :: rest ++ 'e' :: signedExponent (place - 1)

/-- A binary64 number with the fewest digits that read back. -/
def shortest (x : Binary64) : Text :=
  let size : Text :=
    if x.units = 0 then ['0', '.', '0']
    else
      let (digits, exponent) := shortestFrom x.units 1 16
      let (digits, exponent) := stripZeros (Text.decimal digits) exponent
      layout digits exponent
  if x.negative then '-' :: size else size

end Stencil.Decimal
