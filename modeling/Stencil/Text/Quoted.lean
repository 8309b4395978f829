import Stencil.Text.Basic
import Stencil.Text.HiddenTable
import Stencil.Text.Ranges

/-! # Text shown on one line

Text in messages and listings stands between double quotes. Line ends, tabs,
quotes and backslashes are escaped, and characters that do not show are given by
their number.
-/

namespace Stencil.Text

def shownChar (c : Char) : Text :=
  if c = '\n' then ['\\', 'n']
  else if c = '\r' then ['\\', 'r']
  else if c = '\t' then ['\\', 't']
  else if c.toNat = 0 then ['\\', '0']
  else if c = '"' then ['\\', '"']
  else if c = '\\' then ['\\', '\\']
  else if c.toNat < 0x7F ∧ 0x20 ≤ c.toNat then [c]
  else if isIn hiddenBounds c then ['\\', 'u', '{'] ++ hexadecimal c.toNat ++ ['}']
  else [c]

def shown (text : Text) : Text := '"' :: text.flatMap shownChar ++ ['"']

end Stencil.Text
