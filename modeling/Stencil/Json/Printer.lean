import Stencil.Number.Decimal
import Stencil.Value

/-! # Writing JSON

Values are written either without any blanks, or indented by two spaces with
one item or member a line. Only quotes, backslashes and control characters below
the space are escaped in strings. What has no JSON form is written `null`.
-/

namespace Stencil.Json

def escape (c : Char) : Text :=
  if c = '"' then ['\\', '"']
  else if c = '\\' then ['\\', '\\']
  else if c = '\n' then ['\\', 'n']
  else if c = '\r' then ['\\', 'r']
  else if c = '\t' then ['\\', 't']
  else if c.toNat = 8 then ['\\', 'b']
  else if c.toNat = 12 then ['\\', 'f']
  else if c.toNat < 0x10 then ['\\', 'u', '0', '0', '0'] ++ Text.hexadecimal c.toNat
  else if c.toNat < 0x20 then ['\\', 'u', '0', '0'] ++ Text.hexadecimal c.toNat
  else [c]

def quoted (s : Text) : Text := '"' :: s.flatMap escape ++ ['"']

def scalar : Value → Text
  | .bool true => "true".toList
  | .bool false => "false".toList
  | .integer n => Decimal.integer n
  | .real x => Decimal.shortest x
  | .string s => quoted s
  | _ => "null".toList

mutual

def compact : Value → Text
  | .list items => '[' :: compactItems items ++ [']']
  | .object members => '{' :: compactMembers members ++ ['}']
  | value => scalar value

def compactItems : List Value → Text
  | [] => []
  | [last] => compact last
  | item :: rest => compact item ++ ',' :: compactItems rest

def compactMembers : List (Text × Value) → Text
  | [] => []
  | [(name, last)] => quoted name ++ ':' :: compact last
  | (name, value) :: rest => quoted name ++ ':' :: compact value ++ ',' :: compactMembers rest

end

def newline (depth : Nat) : Text := '\n' :: List.replicate (2 * depth) ' '

mutual

def pretty (depth : Nat) : Value → Text
  | .list [] => ['[', ']']
  | .list items => '[' :: prettyItems (depth + 1) items ++ newline depth ++ [']']
  | .object [] => ['{', '}']
  | .object members => '{' :: prettyMembers (depth + 1) members ++ newline depth ++ ['}']
  | value => scalar value

def prettyItems (depth : Nat) : List Value → Text
  | [] => []
  | [last] => newline depth ++ pretty depth last
  | item :: rest => newline depth ++ pretty depth item ++ ',' :: prettyItems depth rest

def prettyMembers (depth : Nat) : List (Text × Value) → Text
  | [] => []
  | [(name, last)] => newline depth ++ quoted name ++ [':', ' '] ++ pretty depth last
  | (name, value) :: rest =>
    newline depth ++ quoted name ++ [':', ' '] ++ pretty depth value ++
      ',' :: prettyMembers depth rest

end

end Stencil.Json
