import Stencil.Text.Basic

/-! # Blanks, comments and strings of TOML

Readers of the smallest parts of a TOML document. Each takes the text from where
the part starts and gives back the text after it, or nothing when the part is
ill-formed.
-/

namespace Stencil.Toml

def isSpace (c : Char) : Bool := c == ' ' || c == '\t'

/-- The characters that may stand in comments and within lines of strings: all but the control
characters other than the tab. -/
def isPrintable (c : Char) : Bool := c == '\t' || (0x20 ≤ c.toNat && c.toNat != 0x7F)

def skipSpaces (text : Text) : Text := text.dropWhile isSpace

/-- The text after blanks, line ends and comments, `inComment` saying whether a comment has begun.
-/
def skipGap (inComment : Bool) : Text → Option Text
  | [] => some []
  | '\n' :: rest => skipGap false rest
  | '\r' :: '\n' :: rest => skipGap false rest
  | c :: rest =>
    if inComment then if isPrintable c then skipGap true rest else none
    else if isSpace c then skipGap false rest
    else if c = '#' then skipGap true rest
    else some (c :: rest)

/-- The text after the end of a line, before which blanks and a comment may stand. -/
def lineEnd (inComment : Bool) : Text → Option Text
  | [] => some []
  | '\n' :: rest => some rest
  | '\r' :: '\n' :: rest => some rest
  | c :: rest =>
    if inComment then if isPrintable c then lineEnd true rest else none
    else if isSpace c then lineEnd false rest
    else if c = '#' then lineEnd true rest
    else none

/-! ## Strings -/

/-- The character whose number is written in hexadecimal digits. -/
def numbered? (digits : Text) : Option Char := do
  let n ← Text.digitsValue? 16 digits
  if n < 0xD800 ∨ (0xE000 ≤ n ∧ n < 0x110000) then some (Char.ofNat n) else none

/-- The character that a backslash and a letter stand for. -/
def escaped? : Char → Option Char
  | 'b' => some (Char.ofNat 8)
  | 't' => some '\t'
  | 'n' => some '\n'
  | 'f' => some (Char.ofNat 12)
  | 'r' => some '\r'
  | 'e' => some (Char.ofNat 27)
  | '"' => some '"'
  | '\\' => some '\\'
  | _ => none

def prepend (c : Char) (read : Text × Text) : Text × Text := (c :: read.1, read.2)

/-- Whether a line ends after the blanks at the start of a text. -/
def endsLine (text : Text) : Bool :=
  match skipSpaces text with
  | '\n' :: _ => true
  | '\r' :: '\n' :: _ => true
  | _ => false

/-- The inside of a string in double quotes on one line, and the text after its closing quote. -/
def basicString : Text → Option (Text × Text)
  | [] => none
  | '"' :: rest => some ([], rest)
  | '\\' :: 'x' :: a :: b :: rest => do
    return prepend (← numbered? [a, b]) (← basicString rest)
  | '\\' :: 'u' :: a :: b :: c :: d :: rest => do
    return prepend (← numbered? [a, b, c, d]) (← basicString rest)
  | '\\' :: 'U' :: a :: b :: c :: d :: e :: f :: g :: h :: rest => do
    return prepend (← numbered? [a, b, c, d, e, f, g, h]) (← basicString rest)
  | '\\' :: c :: rest => do return prepend (← escaped? c) (← basicString rest)
  | c :: rest =>
    if c != '\\' && isPrintable c then do return prepend c (← basicString rest) else none

/-- The inside of a string in single quotes on one line, and the text after its closing quote. -/
def literalString : Text → Option (Text × Text)
  | [] => none
  | c :: rest =>
    if c = '\'' then some ([], rest)
    else if isPrintable c then do return prepend c (← literalString rest)
    else none

/-- The inside of a string in three double quotes, and the text after them. Up to two quotes may
stand right before the closing ones. While `trimming`, which a backslash at the end of a line
starts, blanks and line ends are passed over. -/
def basicLines (trimming : Bool) : Text → Option (Text × Text)
  | [] => none
  | '"' :: '"' :: '"' :: '"' :: '"' :: rest => some (['"', '"'], rest)
  | '"' :: '"' :: '"' :: '"' :: rest => some (['"'], rest)
  | '"' :: '"' :: '"' :: rest => some ([], rest)
  | '\\' :: 'x' :: a :: b :: rest => do
    return prepend (← numbered? [a, b]) (← basicLines false rest)
  | '\\' :: 'u' :: a :: b :: c :: d :: rest => do
    return prepend (← numbered? [a, b, c, d]) (← basicLines false rest)
  | '\\' :: 'U' :: a :: b :: c :: d :: e :: f :: g :: h :: rest => do
    return prepend (← numbered? [a, b, c, d, e, f, g, h]) (← basicLines false rest)
  | '\r' :: '\n' :: rest => do
    let read ← basicLines trimming rest
    return if trimming then read else prepend '\r' (prepend '\n' read)
  | '\\' :: c :: rest =>
    if endsLine (c :: rest) then basicLines true (c :: rest)
    else do return prepend (← escaped? c) (← basicLines false rest)
  | c :: rest =>
    if trimming && (isSpace c || c == '\n') then basicLines true rest
    else if c != '\\' && (isPrintable c || c == '\n') then do
      return prepend c (← basicLines false rest)
    else none

/-- The inside of a string in three single quotes, and the text after them. -/
def literalLines : Text → Option (Text × Text)
  | [] => none
  | '\'' :: '\'' :: '\'' :: '\'' :: '\'' :: rest => some (['\'', '\''], rest)
  | '\'' :: '\'' :: '\'' :: '\'' :: rest => some (['\''], rest)
  | '\'' :: '\'' :: '\'' :: rest => some ([], rest)
  | '\r' :: '\n' :: rest => do return prepend '\r' (prepend '\n' (← literalLines rest))
  | c :: rest =>
    if isPrintable c || c == '\n' then do return prepend c (← literalLines rest) else none

/-- The text of several lines without the line end it starts with. -/
def afterOpening : Text → Text
  | '\n' :: rest => rest
  | '\r' :: '\n' :: rest => rest
  | text => text

def string? : Text → Option (Text × Text)
  | '"' :: '"' :: '"' :: rest => basicLines false (afterOpening rest)
  | '\'' :: '\'' :: '\'' :: rest => literalLines (afterOpening rest)
  | '"' :: rest => basicString rest
  | '\'' :: rest => literalString rest
  | _ => none

/-! ## Keys -/

def isKeyChar (c : Char) : Bool := c.isAlphanum || c == '_' || c == '-'

def keyPart? : Text → Option (Text × Text)
  | '"' :: rest => basicString rest
  | '\'' :: rest => literalString rest
  | text =>
    match text.takeWhile isKeyChar with
    | [] => none
    | part => some (part, text.dropWhile isKeyChar)

/-- A key with the parts before its last dot, and the text after it and the blanks that follow.
Each part takes a character, so as many steps as there are characters are enough. -/
def keyWithin : Nat → Text → Option ((List Text × Text) × Text)
  | 0, _ => none
  | steps + 1, text => do
    let (part, rest) ← keyPart? (skipSpaces text)
    match skipSpaces rest with
    | '.' :: rest => do
      let ((path, last), rest) ← keyWithin steps rest
      return ((part :: path, last), rest)
    | rest => return (([], part), rest)

def keyLimit : Nat := 80

def key? (text : Text) : Option ((List Text × Text) × Text) := do
  let ((path, last), rest) ← keyWithin text.length text
  if path.length < keyLimit then return ((path, last), rest) else none

end Stencil.Toml
