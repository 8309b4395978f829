import Stencil.ParseError
import Stencil.Name

/-! # Tokens of an expression

The inside of a block is cut into words, variables, literals and equals signs.
Blanks, tabs and line ends separate tokens and are no tokens themselves: a
token only remembers whether one stood before it. A literal that is never
closed takes all that follows.
-/

namespace Stencil

/-- What a token is, without its place. -/
inductive Lexeme where
  | equals
  | quoted (quote : Quote) (inner : Text)
  | unclosed (quote : Quote) (rest : Text)
  | var (name : Text)
  | word (word : Text)
deriving DecidableEq

namespace Lexeme

def source : Lexeme → Text
  | equals => ['=']
  | quoted quote inner => quote.char :: inner ++ [quote.char]
  | unclosed quote rest => quote.char :: rest
  | var name => '$' :: name
  | word w => w

def isSeparator (c : Char) : Bool := c == ' ' || c == '\t' || c == '\r' || c == '\n'

def isVariableChar (c : Char) : Bool :=
  !(isSeparator c || c == '=' || c == '\'' || c == '"')

def isWordChar (c : Char) : Bool := isVariableChar c && c != '$'

/-- The inside of a literal and what follows its closing quote. A backslash takes the next
character with it, whichever it is, but never a line feed. -/
def closing (quote : Quote) : Text → Option (Text × Text)
  | [] => none
  | c :: rest =>
    if c = quote.char then some ([], rest)
    else if c = '\\' then
      match rest with
      | [] => none
      | d :: rest =>
        if d = '\n' then none
        else (closing quote rest).map fun (inner, after) => (c :: d :: inner, after)
    else (closing quote rest).map fun (inner, after) => (c :: inner, after)

/-- The token that starts with the character `c`, which is no separator, and the text after it. -/
def next (c : Char) (rest : Text) : Lexeme × Text :=
  if c = '=' then (.equals, rest)
  else if c = '$' then
    (.var (rest.takeWhile isVariableChar), rest.dropWhile isVariableChar)
  else
    match Quote.ofChar? c with
    | some quote =>
      match closing quote rest with
      | some (inner, after) => (.quoted quote inner, after)
      | none => (.unclosed quote rest, [])
    | none => (.word (c :: rest.takeWhile isWordChar), rest.dropWhile isWordChar)

/-- A closed literal is its inside, its quote and the text after it. -/
theorem eq_of_closing {quote : Quote} {text inner after : Text}
    (h : closing quote text = some (inner, after)) :
    text = inner ++ quote.char :: after := by
  fun_induction closing quote text generalizing inner after with
  | case1 => cases h
  | case2 rest => cases h; rfl
  | case3 => cases h
  | case4 => cases h
  | case5 hc d rest hd ih =>
    obtain ⟨⟨i, a⟩, hi, heq⟩ := Option.map_eq_some_iff.mp h
    cases heq
    simp [ih hi]
  | case6 c rest hq hc ih =>
    obtain ⟨⟨i, a⟩, hi, heq⟩ := Option.map_eq_some_iff.mp h
    cases heq
    simp [ih hi]

/-- A token and what follows it make up the text it was taken from. -/
theorem source_next (c : Char) (rest : Text) :
    (next c rest).1.source ++ (next c rest).2 = c :: rest := by
  unfold next
  split
  next hc => simp [source, hc]
  next =>
    split
    next hc => simp [source, hc]
    next =>
      split
      next quote hq =>
        have hc := Quote.char_of_ofChar? hq
        split
        next inner after h => simp [source, hc, eq_of_closing h]
        next => simp [source, hc]
      next => simp [source]

theorem source_ne_nil (c : Char) (rest : Text) : (next c rest).1.source ≠ [] := by
  unfold next
  split
  next => simp [source]
  next =>
    split
    next => simp [source]
    next =>
      split
      next => split <;> simp [source]
      next => simp [source]

/-- What follows a token is shorter than what the token starts. -/
theorem length_next_le (c : Char) (rest : Text) : (next c rest).2.length ≤ rest.length := by
  have hlen := congrArg List.length (source_next c rest)
  have hpos := List.length_pos_iff.mpr (source_ne_nil c rest)
  simp only [List.length_append, List.length_cons] at hlen
  omega

end Lexeme

/-- A token in its place. `spaced` says that no other token stands right before it. -/
structure Token where
  lexeme : Lexeme
  span : Span
  spaced : Bool
deriving DecidableEq

def Token.list (start : Nat) (spaced : Bool) : Text → List Token
  | [] => []
  | c :: rest =>
    if Lexeme.isSeparator c then Token.list (start + 1) true rest
    else
      let width := (Lexeme.next c rest).1.source.byteLength
      ⟨(Lexeme.next c rest).1, ⟨start, width⟩, spaced⟩ ::
        Token.list (start + width) false (Lexeme.next c rest).2
termination_by text => text.length
decreasing_by
  · simp
  · have := Lexeme.length_next_le c rest
    simp only [List.length_cons]
    omega

end Stencil
