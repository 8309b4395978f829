import Stencil.Text.Basic

/-! # Quoted literals

A literal is written between two equal quotes. Inside it a backslash before a
quote or another backslash stands for that character alone; before anything
else it stands for itself.
-/

namespace Stencil

/-- The two characters that delimit a literal. -/
inductive Quote where
  | single
  | double
deriving DecidableEq

namespace Quote

def char : Quote → Char
  | single => '\''
  | double => '"'

def ofChar? (c : Char) : Option Quote :=
  if c = '\'' then some single else if c = '"' then some double else none

@[simp] theorem ofChar?_char (q : Quote) : ofChar? q.char = some q := by
  cases q <;> rfl

theorem char_of_ofChar? {c : Char} {q : Quote} (h : ofChar? c = some q) : c = q.char := by
  unfold ofChar? at h
  split at h
  next hc => cases h; exact hc
  next =>
    split at h
    next hc => cases h; exact hc
    next => cases h

end Quote

namespace Text

/-- The characters that a backslash takes the meaning from: both quotes and the backslash. -/
def isEscapable (c : Char) : Bool := c == '\'' || c == '"' || c == '\\'

def unescape : Text → Text
  | [] => []
  | [c] => [c]
  | c :: d :: rest =>
    if c = '\\' ∧ isEscapable d then d :: unescape rest else c :: unescape (d :: rest)

end Text

/-- A literal: the quote it was written with and the text it stands for. -/
structure Literal where
  quote : Quote
  value : Text
deriving DecidableEq

namespace Literal

/-- The literal as it is shown: its value between its quotes, with no escapes. -/
def content (literal : Literal) : Text :=
  literal.quote.char :: literal.value ++ [literal.quote.char]

def ofWritten (quote : Quote) (inner : Text) : Literal := ⟨quote, inner.unescape⟩

end Literal

end Stencil
