import Stencil.Expression.Basic

/-! # Errors of the template grammar

A template or an expression is refused for one cause at one place. The causes
are data; their wording is in `Cause.message` alone.
-/

namespace Stencil

/-- Why a template or an expression is refused. -/
inductive Cause where
  /-- An equals sign with no name before it. -/
  | namelessArgument
  /-- A lone `$`. -/
  | emptyVariable
  /-- A variable whose name has a character that names do not have. -/
  | invalidVariable (name : Text)
  /-- A named argument whose name has a character that names do not have. -/
  | invalidArgument (name : Text)
  /-- A named argument whose value is neither a literal nor a variable. -/
  | bareValue
  /-- A named argument that ends after the equals sign. -/
  | missingValue
  /-- A literal whose second quote is missing. -/
  | unbalancedQuote
  /-- Two tokens with nothing between them. -/
  | notSeparated
  /-- A named argument where the function's name should be. -/
  | argumentFirst
  /-- More tokens after a lone variable or literal. -/
  | trailing (operand : Operand)
  /-- A second unnamed argument; arguments are counted from one. -/
  | unnamedArgument (position : Nat)
  /-- A plain word among the arguments. -/
  | bareArgument (word : Text)
  /-- A function's name with two or more dots. -/
  | extraDot (word : Text)
  /-- A function's name with an empty part or with a character that names do not have. -/
  | invalidFunction (word : Text)
  /-- A block that is still open where the template ends. -/
  | unclosedBlock
  /-- A literal in a block that is still open where the template ends. -/
  | unclosedLiteral
deriving DecidableEq

namespace Cause

/-- The sentence that reports a cause. -/
def message : Cause → Text
  | namelessArgument => "A named argument must have a name".toList
  | emptyVariable => "The variable name is empty".toList
  | invalidVariable name =>
    "The variable name '".toList ++ name ++
      "' contains invalid characters. Only alphanumeric chars and underscore are allowed.".toList
  | invalidArgument name =>
    "The argument name '".toList ++ name ++
      "' contains invalid characters. Only alphanumeric chars and underscore are allowed.".toList
  | bareValue => "Named argument values need to be prefixed with a quote or $.".toList
  | missingValue =>
    ("A function named argument must contain a quoted value or variable after the '=' " ++
      "character.").toList
  | unbalancedQuote =>
    "A value must have single quotes or double quotes on both sides".toList
  | notSeparated => "Tokens must be separated by at least one space".toList
  | argumentFirst =>
    "Unexpected named argument found. Expected function name first.".toList
  | trailing (.var name) =>
    "Invalid token detected after the variable: ".toList ++ (Operand.var name).content
  | trailing (.literal literal) =>
    "Invalid token detected after the value: ".toList ++ literal.content
  | unnamedArgument position =>
    ("Functions only support named arguments after the first argument. Argument ").toList ++
      Text.decimal position ++ " is not named.".toList
  | bareArgument word =>
    ("A function named argument must contain a name and value separated by a '=' " ++
      "character: `").toList ++ word ++ "`".toList
  | extraDot word =>
    ("A function name can contain at most one dot separating the plugin name from the " ++
      "function name: `").toList ++ word ++ "`".toList
  | invalidFunction word =>
    "The function identifier '".toList ++ word ++
      ("' contains invalid characters. Only alphanumeric chars, underscore and a single dot " ++
        "between the plugin and function name are allowed.").toList
  | unclosedBlock => "Code block is missing its closing `\x7d\x7d`".toList
  | unclosedLiteral =>
    "Code block contains a quoted value that is never closed".toList

end Cause

/-- A refusal: its cause and the stretch of the text that is at fault. -/
structure ParseError where
  cause : Cause
  span : Span
deriving DecidableEq

/-- The same refusal in a text that has `count` more bytes in front. -/
def ParseError.shift (count : Nat) (error : ParseError) : ParseError :=
  ⟨error.cause, error.span.shift count⟩

/-- A template that is refused, with what is wrong with it. -/
structure Refusal where
  template : Text
  error : ParseError
deriving DecidableEq

end Stencil
