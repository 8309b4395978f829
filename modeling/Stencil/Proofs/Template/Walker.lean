import Stencil.Proofs.Expression.Walker
import Stencil.Template.Reader

/-! # Walking over the tokens of a template

A template is cut into tokens of which each brace, quote and backslash is one, and a walk over them
keeps no more than places: where the text that waits for a block starts, and where the braces stand
that opened the current block. All texts are taken from the template between such places. No step
leaves the walk where it is, so it comes to an end.
-/

namespace Stencil.Template

/-- The kinds of tokens that a template is made of. -/
inductive Kind where
  | opening
  | closing
  | quote (quote : Quote)
  | backslash
  | var
  | dollar
  | text
deriving DecidableEq

namespace Kind

/-- Whether a character is no token of its own. -/
def isPlain (c : Char) : Bool :=
  !(c == '{' || c == '}' || c == '\\' || c == '$') && (Quote.ofChar? c).isNone

/-- The kind of the token that starts with a character. -/
def ofChar (c : Char) (rest : Text) : Kind :=
  if c = '{' then opening
  else if c = '}' then closing
  else if c = '\\' then backslash
  else if c = '$' then if rest.head?.any isNameStart then var else dollar
  else
    match Quote.ofChar? c with
    | some q => quote q
    | none => text

/-- Whether a token goes on with some character. -/
def continues : Kind → Char → Bool
  | var => isNameChar
  | text => isPlain
  | _ => fun _ => false

/-- Whether a backslash before the token stands for nothing by itself. -/
def isEscapable : Kind → Bool
  | quote _ => true
  | backslash => true
  | _ => false

end Kind

/-- The tokens of a template. -/
def lexer : Lexer Kind where
  kind := Kind.ofChar
  source c rest := c :: rest.takeWhile (Kind.ofChar c rest).continues
  after c rest := rest.dropWhile (Kind.ofChar c rest).continues
  source_append_after c rest := by rw [List.cons_append, List.takeWhile_append_dropWhile]
  source_ne_nil c rest := List.cons_ne_nil _ _

/-- Where a walk stands: outside blocks, in a block, or in a literal of a block. -/
inductive Place where
  | outside
  | block
  | literal (quote : Quote)
deriving DecidableEq

/-- How far a walk has come. -/
structure Walker where
  cursor : Nat
  /-- Where the text starts that no block holds yet. -/
  textStart : Nat
  /-- Where the braces stand that opened the current block, or else the last one. -/
  blockStart : Nat
  place : Place
  blocks : List Block
deriving DecidableEq

namespace Walker

def initial : Walker := ⟨0, 0, 0, .outside, []⟩

def pass (walker : Walker) (count : Nat) : Walker := { walker with cursor := walker.cursor + count }

/-- Makes a block of the text that waits, up to some place. -/
def flush (template : Text) (walker : Walker) (stop : Nat) : Except Halt Walker :=
  if walker.textStart < stop then do
    let text ← Walk.cut template walker.textStart stop
    return { walker with textStart := stop, blocks := walker.blocks ++ [.text text] }
  else return { walker with textStart := stop }

/-- The place in a template where the content of a block starts, whose inside starts at `first`. -/
def contentStart (first : Nat) (interior : Text) : Nat :=
  first + (interior.byteLength - interior.trimStart.byteLength)

/-- Closes the current block with braces that stand from `start` to `stop`. -/
def close (template : Text) (walker : Walker) (start stop : Nat) : Except Halt Walker := do
  let first := walker.blockStart + opener.byteLength
  let interior ← Walk.cut template first start
  let walker ← flush template { walker with place := .outside } walker.blockStart
  if interior.trim = [] then flush template walker stop
  else
    let inner := contentStart first interior
    match ← Expression.walkAt template inner (inner + interior.trim.byteLength) with
    | some expression =>
      return { walker with
        textStart := stop
        blocks := walker.blocks ++ [.ofExpression interior.trim expression] }
    -- not reached: what is not blank holds an expression or is refused
    | none => .error .broken

section

variable (inlineVariables : Bool) (template : Text) (walker : Walker)

/-- Whether the next token but one is of some kind. -/
def Sees (kind : Kind) : Prop :=
  Walk.kind? (lexer.tokens 0 template) (walker.cursor + 1) = some kind

instance (kind : Kind) : Decidable (walker.Sees template kind) :=
  inferInstanceAs (Decidable (_ = _))

def stepOutside (token : Raw Kind) : Except Halt Walker :=
  if token.kind = .opening ∧ walker.Sees template .opening then
    return { walker.pass 1 with blockStart := token.start, place := .block }
  else if token.kind = .var ∧ inlineVariables = true then do
    let walker ← flush template walker token.start
    let name ← Walk.cut template (token.start + Char.utf8Size '$') token.stop
    return { walker.pass 1 with
      textStart := token.stop
      blocks := walker.blocks ++ [.var name] }
  else return walker.pass 1

def stepBlock (token : Raw Kind) : Except Halt Walker :=
  -- two more opening braces start the block anew
  if token.kind = .opening ∧ walker.Sees template .opening then
    return { walker.pass 1 with blockStart := token.start }
  else if token.kind = .closing ∧ walker.Sees template .closing then do
    let last ← Walk.token (lexer.tokens 0 template) (walker.cursor + 1)
    let walker ← close template walker token.start last.stop
    return walker.pass 2
  else
    match token.kind with
    | .quote quote => return { walker.pass 1 with place := .literal quote }
    | _ => return walker.pass 1

def stepLiteral (quote : Quote) (token : Raw Kind) : Walker :=
  if token.kind = .backslash ∧ (Walk.kind? (lexer.tokens 0 template) (walker.cursor + 1)).any
      Kind.isEscapable = true then
    walker.pass 2
  else if token.kind = .quote quote then { walker.pass 1 with place := .block }
  else walker.pass 1

/-- One step of a walk. -/
def step : Except Halt Walker := do
  let token ← Walk.token (lexer.tokens 0 template) walker.cursor
  match walker.place with
  | .outside => walker.stepOutside inlineVariables template token
  | .block => walker.stepBlock template token
  | .literal quote => return walker.stepLiteral template quote token

/-- The end of a walk: all blocks, or what is still open and where. -/
def finish : Except Halt (List Block) :=
  let span : Span := ⟨walker.blockStart, template.byteLength - walker.blockStart⟩
  match walker.place with
  | .outside => do return (← flush template walker template.byteLength).blocks
  | .block => .error (.refused ⟨.unclosedBlock, span⟩)
  | .literal _ => .error (.refused ⟨.unclosedLiteral, span⟩)

end

variable {inlineVariables : Bool} {template : Text} {walker next : Walker}

theorem cursor_flush {stop : Nat} (h : flush template walker stop = .ok next) :
    next.cursor = walker.cursor := by
  unfold flush at h
  split at h
  next =>
    obtain ⟨text, -, h⟩ := Result.bind_eq_ok.mp h
    cases h
    rfl
  next =>
    cases h
    rfl

theorem cursor_close {start stop : Nat} (h : close template walker start stop = .ok next) :
    next.cursor = walker.cursor := by
  obtain ⟨interior, -, h⟩ := Result.bind_eq_ok.mp h
  obtain ⟨middle, hmiddle, h⟩ := Result.bind_eq_ok.mp h
  have hcursor := cursor_flush hmiddle
  dsimp only at hcursor
  rw [← hcursor]
  split at h
  next => exact cursor_flush h
  next =>
    obtain ⟨expression, -, h⟩ := Result.bind_eq_ok.mp h
    split at h
    next =>
      cases h
      rfl
    next => cases h

theorem lt_stepOutside {token : Raw Kind}
    (h : walker.stepOutside inlineVariables template token = .ok next) :
    walker.cursor < next.cursor := by
  unfold stepOutside at h
  split at h
  next =>
    cases h
    exact Nat.lt_succ_self _
  next =>
    split at h
    next =>
      obtain ⟨middle, hmiddle, h⟩ := Result.bind_eq_ok.mp h
      obtain ⟨name, -, h⟩ := Result.bind_eq_ok.mp h
      cases h
      rw [← cursor_flush hmiddle]
      exact Nat.lt_succ_self _
    next =>
      cases h
      exact Nat.lt_succ_self _

theorem lt_stepBlock {token : Raw Kind} (h : walker.stepBlock template token = .ok next) :
    walker.cursor < next.cursor := by
  unfold stepBlock at h
  split at h
  next =>
    cases h
    exact Nat.lt_succ_self _
  next =>
    split at h
    next =>
      obtain ⟨last, -, h⟩ := Result.bind_eq_ok.mp h
      obtain ⟨middle, hmiddle, h⟩ := Result.bind_eq_ok.mp h
      cases h
      rw [← cursor_close hmiddle]
      exact Nat.lt_add_of_pos_right (by decide)
    next =>
      split at h <;> cases h <;> exact Nat.lt_succ_self _

theorem lt_stepLiteral (quote : Quote) (token : Raw Kind) :
    walker.cursor < (walker.stepLiteral template quote token).cursor := by
  unfold stepLiteral
  split
  next => exact Nat.lt_add_of_pos_right (by decide)
  next => split <;> exact Nat.lt_succ_self _

/-- Every step takes a walk further. -/
theorem lt_step (h : walker.step inlineVariables template = .ok next) :
    walker.cursor < next.cursor := by
  obtain ⟨token, -, h⟩ := Result.bind_eq_ok.mp h
  split at h
  next => exact lt_stepOutside h
  next => exact lt_stepBlock h
  next =>
    cases h
    exact lt_stepLiteral _ _

variable (inlineVariables) (template)

/-- Walks on to the end of the tokens. -/
def run (walker : Walker) : Except Halt (List Block) :=
  if walker.cursor < (lexer.tokens 0 template).length then
    match _h : walker.step inlineVariables template with
    | .error halt => .error halt
    | .ok next => run next
  else walker.finish template
termination_by (lexer.tokens 0 template).length - walker.cursor
decreasing_by
  have := lt_step _h
  omega

/-- A walk comes to some point. -/
inductive Reaches : Walker → Prop where
  | initial : Reaches .initial
  | step {walker next : Walker} (reaches : Reaches walker)
      (hlt : walker.cursor < (lexer.tokens 0 template).length)
      (hstep : walker.step inlineVariables template = .ok next) : Reaches next

variable {inlineVariables} {template}

theorem run_of_not_lt (h : ¬ walker.cursor < (lexer.tokens 0 template).length) :
    walker.run inlineVariables template = walker.finish template := by
  rw [run, if_neg h]

theorem run_of_step_error {halt : Halt} (hlt : walker.cursor < (lexer.tokens 0 template).length)
    (h : walker.step inlineVariables template = .error halt) :
    walker.run inlineVariables template = .error halt := by
  rw [run, if_pos hlt]
  split
  next herror =>
    rw [h] at herror
    cases herror
    rfl
  next hok =>
    rw [h] at hok
    cases hok

theorem run_of_step_ok (hlt : walker.cursor < (lexer.tokens 0 template).length)
    (h : walker.step inlineVariables template = .ok next) :
    walker.run inlineVariables template = next.run inlineVariables template := by
  rw [run, if_pos hlt]
  split
  next herror =>
    rw [h] at herror
    cases herror
  next hok =>
    rw [h] at hok
    cases hok
    rfl

end Walker

/-- The blocks that a walk over a template comes to. -/
def walk (inlineVariables : Bool) (template : Text) : Except Halt (List Block) :=
  Walker.initial.run inlineVariables template

end Stencil.Template
