import Stencil.Text.Basic

/-! # Blank characters

The characters with the Unicode property `White_Space`, and the texts that
remain when they are taken off either end.
-/

namespace Stencil.Text

def isBlank (c : Char) : Bool :=
  let n := c.toNat
  (9 ≤ n && n ≤ 13) || n == 0x20 || n == 0x85 || n == 0xA0 || n == 0x1680 ||
    (0x2000 ≤ n && n ≤ 0x200A) || n == 0x2028 || n == 0x2029 || n == 0x202F ||
    n == 0x205F || n == 0x3000

def trimStart (text : Text) : Text := text.dropWhile isBlank

def trimEnd (text : Text) : Text := (text.reverse.dropWhile isBlank).reverse

def trim (text : Text) : Text := trimEnd (trimStart text)

def leadingBlanks (text : Text) : Text := text.takeWhile isBlank

/-- A text is its leading blanks followed by the rest. -/
theorem leadingBlanks_append_trimStart (text : Text) :
    leadingBlanks text ++ trimStart text = text :=
  List.takeWhile_append_dropWhile

end Stencil.Text
