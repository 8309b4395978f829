import Stencil.Number.Decimal
import Stencil.Toml.Moment
import Stencil.Value

/-! # Numbers and words of TOML

Everything that is written without quotes or brackets: truth values, integers in
four bases, decimal fractions, infinities, and dates and times. Underscores may
stand between digits. The form of a numeral is checked first: what has the form of
a number and is none, because it is too large or has no digits after its base, is
a malformed value.
-/

namespace Stencil.Toml

/-! ## Digits and underscores -/

/-- Whether each underscore of a text stands between digits, `joined` saying whether the first
character may be an underscore. -/
def underscoresJoin (isDigit : Char → Bool) (joined : Bool) : Text → Bool
  | [] => true
  | '_' :: rest =>
    joined && (match rest with
      | [] => false
      | c :: _ => isDigit c) && underscoresJoin isDigit false rest
  | c :: rest => underscoresJoin isDigit (isDigit c) rest

/-- Whether each underscore of a numeral stands between digits. One may also stand between the first
character, which can be a sign, and a digit. -/
def underscoresFit (isDigit : Char → Bool) : Text → Bool
  | [] => true
  | first :: rest => first != '_' && underscoresJoin isDigit true rest

def withoutUnderscores (text : Text) : Text := text.filter (· != '_')

/-- The digits that a text starts with, without the underscores among them, and the text after
them. -/
def digitRun (text : Text) : Text × Text :=
  let isPart := fun c : Char => c.isDigit || c == '_'
  (withoutUnderscores (text.takeWhile isPart), text.dropWhile isPart)

/-! ## Integers -/

/-- An integer as a value: one that needs more than 64 bits has none, and one that needs more than
128 bits is malformed. -/
def integerValue (n : Int) : Value :=
  if -(Nat.pow 2 63 : Int) ≤ n ∧ n < Nat.pow 2 64 then .integer n
  else if -(Nat.pow 2 127 : Int) ≤ n ∧ n < Nat.pow 2 128 then .unreadable
  else .malformed

def isHexDigit (c : Char) : Bool := (Text.hexDigit? c).isSome

/-- The integer whose digits in a base are written after the mark of the base. -/
def based? (base : Nat) (text : Text) : Option Value :=
  if text.all (fun c => c == '_' || (Text.hexDigit? c).any (· < base)) &&
      underscoresFit isHexDigit text then
    match withoutUnderscores text with
    | [] => some .malformed
    | digits => (Text.digitsValue? base digits).map fun n => integerValue n
  else none

/-- The integer written as `digits` in base ten after its sign, `text` being all of it. A zero does
not start a longer one. Once an underscore has come, other characters are malformed only if the
underscores stand between digits of the largest base. -/
def integer? (negative : Bool) (digits text : Text) : Option Value :=
  if (digits.head? == some '0' && digits != ['0']) || !underscoresFit isHexDigit text then none
  else
    let digits := withoutUnderscores digits
    if digits.all Char.isDigit then
      let n := Decimal.value digits
      some (integerValue (if negative then -(n : Int) else n))
    else some .malformed

/-! ## Decimal fractions -/

/-- The exponent of a decimal fraction: its sign and digits, after the letter. -/
def exponent? (text : Text) : Option Int :=
  let (negative, rest) := Decimal.signed text
  match digitRun rest with
  | ([], _) => none
  | (digits, []) =>
    let n := Decimal.value digits
    some (if negative then -(n : Int) else n)
  | _ => none

/-- The digits after a decimal point, if there is one, and the text after them. -/
def places? : Text → Option (Text × Text)
  | '.' :: rest =>
    match digitRun rest with
    | ([], _) => none
    | places => some places
  | rest => some ([], rest)

/-- The decimal fraction written as `body` after its sign, `text` being all of it. A zero does not
start a longer whole part. -/
def fraction? (negative : Bool) (body text : Text) : Option Value := do
  let (whole, rest) := digitRun body
  if whole.isEmpty || (body.head? == some '0' && 1 < whole.length) ||
      !underscoresFit Char.isDigit text then none
  else
    let (places, rest) ← places? rest
    let power ← match rest with
      | [] => some 0
      | c :: rest => if c = 'e' ∨ c = 'E' then exponent? rest else none
    match Decimal.nearest? negative (Decimal.value (whole ++ places)) (power - places.length) with
    | some x => return .real x
    | none => return .malformed

/-- A number in base ten, written as `body` after its sign, `text` being all of it. -/
def decimal? (negative : Bool) (body text : Text) : Option Value :=
  match body, body.dropWhile Char.isDigit with
  | [], _ => none
  | _, [] => integer? negative body text
  | _, c :: rest =>
    if (c :: rest).any fun c => c == '.' || c == 'e' || c == 'E' then fraction? negative body text
    else if c = '_' then integer? negative body text
    else none

def number? (text : Text) : Option Value :=
  match text with
  | '0' :: 'x' :: digits => based? 16 digits
  | '0' :: 'o' :: digits => based? 8 digits
  | '0' :: 'b' :: digits => based? 2 digits
  | text =>
    match Decimal.signed text with
    | (_, ['i', 'n', 'f']) => some .nonFinite
    | (_, ['n', 'a', 'n']) => some .nonFinite
    | (negative, body) => decimal? negative body text

/-! ## Words -/

/-- The name under which a date or time stands in its object. -/
def momentName : Text := "$__toml_private_datetime".toList

def word? (text : Text) : Option Value :=
  if text = "true".toList then some (.bool true)
  else if text = "false".toList then some (.bool false)
  else
    match moment? text with
    | some moment => some (.object [(momentName, .string moment)])
    | none => number? text

/-- The characters that words are made of: all but blanks, the ends of lines, and the marks that
stand around values. -/
def isWordChar (c : Char) : Bool :=
  !(c == ' ' || c == '\t' || c == '\r' || c == '\n' || c == '#' || c == '=' || c == ',' ||
    c == '[' || c == ']' || c == '{' || c == '}')

/-- The word that a text starts with, and the text after it. A date takes the time of day with it
that follows after one blank. -/
def takeWord (text : Text) : Text × Text :=
  let first := text.takeWhile isWordChar
  let rest := text.dropWhile isWordChar
  match date? first, rest with
  | some (_, []), ' ' :: c :: rest' =>
    if c.isDigit then
      (first ++ ' ' :: (c :: rest').takeWhile isWordChar, (c :: rest').dropWhile isWordChar)
    else (first, rest)
  | _, _ => (first, rest)

def scalar? (text : Text) : Option (Value × Text) := do
  let (word, rest) := takeWord text
  return (← word? word, rest)

end Stencil.Toml
