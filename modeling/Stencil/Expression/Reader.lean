import Stencil.Expression.Token

/-! # Reading an expression

Tokens are first grouped into parts, a name with its equals sign and value being
one part, and the parts are then read as an expression. A fault in the first
stage is reported before any fault of the second.
-/

namespace Stencil

/-- One unit of an expression. -/
inductive Part where
  | word (word : Text)
  | operand (operand : Operand)
  | binding (binding : Binding)
deriving DecidableEq

/-- A unit of an expression in its place. -/
structure PlacedPart where
  part : Part
  span : Span
deriving DecidableEq

namespace Part

def variableNamed (name : Text) (span : Span) : Except ParseError Operand :=
  if name.isEmpty then .error ⟨.emptyVariable, span⟩
  else if isName name then .ok (.var name)
  else .error ⟨.invalidVariable name, span⟩

def value (token : Token) : Except ParseError Operand :=
  match token.lexeme with
  | .quoted quote inner => .ok (.literal (.ofWritten quote inner))
  | .var name => variableNamed name token.span
  | .word _ => .error ⟨.bareValue, token.span⟩
  | .equals => .error ⟨.bareValue, token.span⟩
  | .unclosed _ _ => .error ⟨.unbalancedQuote, token.span⟩

/-- A part in its place, refused when its first token touches the token before. -/
def placed (token : Token) (part : Part) (span : Span) : Except ParseError PlacedPart :=
  if token.spaced then .ok ⟨part, span⟩ else .error ⟨.notSeparated, span⟩

def list : List Token → Except ParseError (List PlacedPart)
  | [] => .ok []
  | token :: rest =>
    match token.lexeme with
    | .equals => .error ⟨.namelessArgument, token.span⟩
    | .unclosed _ _ => .error ⟨.unbalancedQuote, token.span⟩
    | .quoted quote inner => do
      let first ← placed token (.operand (.literal (.ofWritten quote inner))) token.span
      return first :: (← list rest)
    | .var name => do
      let a ← variableNamed name token.span
      let first ← placed token (.operand a) token.span
      return first :: (← list rest)
    | .word w =>
      -- the only look ahead: a word before an equals sign names an argument
      match rest with
      | ⟨.equals, sign, _⟩ :: rest =>
        if isName w then
          match rest with
          | [] => .error ⟨.missingValue, sign⟩
          | last :: rest => do
            let a ← value last
            let first ← placed token (.binding ⟨w, a⟩) (token.span.through last.span)
            return first :: (← list rest)
        else .error ⟨.invalidArgument w, token.span⟩
      | rest => do
        let first ← placed token (.word w) token.span
        return first :: (← list rest)

end Part

def FunctionRef.ofWord (word : Text) : Except Cause FunctionRef :=
  match word.dropWhile (· != '.') with
  | [] => if isName word then .ok ⟨none, word⟩ else .error (.invalidFunction word)
  | _ :: function =>
    let plugin := word.takeWhile (· != '.')
    if function.contains '.' then .error (.extraDot word)
    else if isName plugin && isName function then .ok ⟨some plugin, function⟩
    else .error (.invalidFunction word)

namespace Call

/-- The named arguments of a call, the first of them being argument number `position`. -/
def bindings (position : Nat) : List PlacedPart → Except ParseError (List Binding)
  | [] => .ok []
  | ⟨.binding b, _⟩ :: rest => do return b :: (← bindings (position + 1) rest)
  | ⟨.operand _, span⟩ :: _ => .error ⟨.unnamedArgument position, span⟩
  | ⟨.word w, span⟩ :: _ => .error ⟨.bareArgument w, span⟩

/-- The call of a function with the parts after its name. -/
def ofParts (function : FunctionRef) : List PlacedPart → Except ParseError Call
  | ⟨.operand a, _⟩ :: rest => do return ⟨function, some a, ← bindings 2 rest⟩
  | rest => do return ⟨function, none, ← bindings 1 rest⟩

end Call

namespace Expression

/-- The expression that a list of parts makes up; no parts make up none. -/
def ofParts : List PlacedPart → Except ParseError (Option Expression)
  | [] => .ok none
  | ⟨.binding _, span⟩ :: _ => .error ⟨.argumentFirst, span⟩
  | [⟨.operand a, _⟩] => .ok (some (.operand a))
  | ⟨.operand a, _⟩ :: next :: _ => .error ⟨.trailing a, next.span⟩
  | ⟨.word w, span⟩ :: rest =>
    match FunctionRef.ofWord w with
    | .error cause => .error ⟨cause, span⟩
    | .ok function => do return some (.call (← Call.ofParts function rest))

/-- Reads the expression written in `text`, which starts at byte `start` of a template. A text of
separators alone holds no expression. -/
def readAt (start : Nat) (text : Text) : Except ParseError (Option Expression) := do
  ofParts (← Part.list (Token.list start true text))

def read (text : Text) : Except ParseError (Option Expression) := readAt 0 text

end Expression

end Stencil
