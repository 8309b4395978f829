import Stencil.Expression.Reader
import Stencil.Proofs.Text.Lexer

/-! # Walking over the tokens of an expression

An expression is read by a walk over its tokens, separators included, which asks for each token by
its number and for its text by the places of its ends in the template. No step leaves the walk where
it is, so it comes to an end.
-/

namespace Stencil

/-- The kinds of tokens that an expression is made of. -/
inductive Lexeme.Kind where
  | gap
  | equals
  | quoted (quote : Quote)
  | unclosed
  | var
  | word
deriving DecidableEq

def Lexeme.kind : Lexeme → Kind
  | .equals => .equals
  | .quoted quote _ => .quoted quote
  | .unclosed _ _ => .unclosed
  | .var _ => .var
  | .word _ => .word

/-- The literal that is written between the first and the last character of a text. -/
def Literal.ofSource (source : Text) : Except Halt Literal := do
  let c := source.headD '\''
  let inner ← Walk.cut source c.utf8Size (source.byteLength - c.utf8Size)
  return .ofWritten ((Quote.ofChar? c).getD .single) inner

namespace Expression

/-- The tokens of an expression; separators that stand together are one of them. -/
def lexer : Lexer Lexeme.Kind where
  kind c rest := if Lexeme.isSeparator c then .gap else (Lexeme.next c rest).1.kind
  source c rest :=
    if Lexeme.isSeparator c then c :: rest.takeWhile Lexeme.isSeparator
    else (Lexeme.next c rest).1.source
  after c rest :=
    if Lexeme.isSeparator c then rest.dropWhile Lexeme.isSeparator else (Lexeme.next c rest).2
  source_append_after c rest := by
    split
    next => rw [List.cons_append, List.takeWhile_append_dropWhile]
    next => exact Lexeme.source_next c rest
  source_ne_nil c rest := by
    split
    next => exact List.cons_ne_nil _ _
    next => exact Lexeme.source_ne_nil c rest

/-- What a walk goes over: a template, the place where an expression starts in it, and the tokens of
that expression, whose places are counted from there. -/
structure Ground where
  template : Text
  offset : Nat
  tokens : List (Raw Lexeme.Kind)

/-- How far a walk has come. -/
structure Walker where
  cursor : Nat
  /-- Whether a separator stands before the next token, or none at all. -/
  separated : Bool
  parts : List PlacedPart

def Walker.initial : Walker := ⟨0, true, []⟩

namespace Ground

variable (ground : Ground)

/-- The text of a token. -/
def sourceAt (index : Nat) : Except Halt Text := do
  let token ← Walk.token ground.tokens index
  Walk.cut ground.template (ground.offset + token.start) (ground.offset + token.stop)

/-- The stretch of the template from one token to another. -/
def stretch (first last : Nat) : Except Halt Span := do
  let first ← Walk.token ground.tokens first
  let last ← Walk.token ground.tokens last
  return ⟨ground.offset + first.start, ground.offset + last.stop - (ground.offset + first.start)⟩

/-- Refuses the template for a token. -/
def refuse {α : Type} (cause : Cause) (index : Nat) : Except Halt α := do
  .error (.refused ⟨cause, ← ground.stretch index index⟩)

/-- The number of the first token from some number on that is no gap. -/
def skip (index : Nat) : Nat :=
  index + ((ground.tokens.drop index).takeWhile fun token => token.kind == .gap).length

/-- Refuses the template for all that stands from a token on, which starts with a quote. -/
def unexpected {α : Type} (index : Nat) : Except Halt α := do
  match (← ground.sourceAt index).head?.bind Quote.ofChar? with
  | some _ =>
    .error (.refused ⟨.unbalancedQuote, ← ground.stretch index (ground.tokens.length - 1)⟩)
  -- not reached: what is no quote starts a token of another kind
  | none => .error .broken

def variableAt (index : Nat) : Except Halt Operand := do
  let source ← ground.sourceAt index
  let name ← Walk.cut source (Char.utf8Size '$') source.byteLength
  (Part.variableNamed name (← ground.stretch index index)).mapError .refused

/-- The value of a named argument, which follows the equals sign. -/
def valueAt (sign index : Nat) : Except Halt Operand :=
  match Walk.kind? ground.tokens index with
  | some (.quoted _) => do return .literal (← Literal.ofSource (← ground.sourceAt index))
  | some .var => ground.variableAt index
  | some .word => ground.refuse .bareValue index
  | some .equals => ground.refuse .bareValue index
  | some .unclosed => ground.unexpected index
  | some .gap => ground.refuse .missingValue sign
  | none => ground.refuse .missingValue sign

/-- A named argument, with the number of the token behind its value. -/
def bindingAt (index sign : Nat) : Except Halt (Binding × Nat) := do
  let name ← ground.sourceAt index
  if isName name then
    let last := ground.skip (sign + 1)
    return (⟨name, ← ground.valueAt sign last⟩, last + 1)
  else ground.refuse (.invalidArgument name) index

/-- Takes a part that stands from the current token to the one before `next`. -/
def take (walker : Walker) (part : Part) (next : Nat) : Except Halt Walker := do
  let span ← ground.stretch walker.cursor (next - 1)
  if walker.separated then return ⟨next, false, walker.parts ++ [⟨part, span⟩]⟩
  else .error (.refused ⟨.notSeparated, span⟩)

/-- A word before an equals sign names an argument. -/
def takeWord (walker : Walker) : Except Halt Walker :=
  let sign := ground.skip (walker.cursor + 1)
  if Walk.kind? ground.tokens sign = some .equals then do
    let (binding, next) ← ground.bindingAt walker.cursor sign
    ground.take walker (.binding binding) next
  else do
    let word ← ground.sourceAt walker.cursor
    ground.take walker (.word word) (walker.cursor + 1)

/-- A step from a token of some kind. -/
def stepFrom (walker : Walker) : Lexeme.Kind → Except Halt Walker
  | .gap => return { walker with separated := true, cursor := walker.cursor + 1 }
  | .equals => ground.refuse .namelessArgument walker.cursor
  | .unclosed => ground.unexpected walker.cursor
  | .quoted _ => do
    let literal ← Literal.ofSource (← ground.sourceAt walker.cursor)
    ground.take walker (.operand (.literal literal)) (walker.cursor + 1)
  | .var => do
    let operand ← ground.variableAt walker.cursor
    ground.take walker (.operand operand) (walker.cursor + 1)
  | .word => ground.takeWord walker

/-- One step of a walk: past a gap, or past a part. -/
def step (walker : Walker) : Except Halt Walker := do
  let token ← Walk.token ground.tokens walker.cursor
  ground.stepFrom walker token.kind

variable {ground}

theorem le_skip (index : Nat) : index ≤ ground.skip index :=
  Nat.le_add_right _ _

theorem lt_bindingAt {index sign : Nat} {result : Binding × Nat} (hsign : index ≤ sign)
    (h : ground.bindingAt index sign = .ok result) : index < result.2 := by
  obtain ⟨name, -, h⟩ := Result.bind_eq_ok.mp h
  split at h
  next =>
    obtain ⟨operand, -, h⟩ := Result.bind_eq_ok.mp h
    cases h
    exact Nat.lt_succ_of_le (Nat.le_of_lt (Nat.lt_of_le_of_lt hsign (le_skip (sign + 1))))
  next =>
    obtain ⟨span, -, h⟩ := Result.bind_eq_ok.mp h
    cases h

theorem cursor_take {walker next : Walker} {part : Part} {index : Nat}
    (h : ground.take walker part index = .ok next) : next.cursor = index := by
  obtain ⟨span, -, h⟩ := Result.bind_eq_ok.mp h
  split at h
  next =>
    cases h
    rfl
  next => cases h

theorem refuse_ne_ok {α : Type} {cause : Cause} {index : Nat} {a : α} :
    ground.refuse cause index ≠ .ok a := by
  intro h
  obtain ⟨span, -, h⟩ := Result.bind_eq_ok.mp h
  cases h

theorem unexpected_ne_ok {α : Type} {index : Nat} {a : α} : ground.unexpected index ≠ .ok a := by
  intro h
  obtain ⟨source, -, h⟩ := Result.bind_eq_ok.mp h
  split at h
  next =>
    obtain ⟨span, -, h⟩ := Result.bind_eq_ok.mp h
    cases h
  next => cases h

theorem lt_takeWord {walker next : Walker} (h : ground.takeWord walker = .ok next) :
    walker.cursor < next.cursor := by
  unfold takeWord at h
  dsimp only at h
  split at h
  next =>
    obtain ⟨binding, hbinding, h⟩ := Result.bind_eq_ok.mp h
    rw [cursor_take h]
    exact lt_bindingAt (Nat.le_of_succ_le (le_skip (walker.cursor + 1))) hbinding
  next =>
    obtain ⟨word, -, h⟩ := Result.bind_eq_ok.mp h
    rw [cursor_take h]
    exact Nat.lt_succ_self _

/-- Every step takes a walk further. -/
theorem lt_step {walker next : Walker} (h : ground.step walker = .ok next) :
    walker.cursor < next.cursor := by
  obtain ⟨⟨kind, start, stop⟩, -, h⟩ := Result.bind_eq_ok.mp h
  cases kind with
  | gap =>
      cases h
      exact Nat.lt_succ_self _
  | equals => exact absurd h refuse_ne_ok
  | unclosed => exact absurd h unexpected_ne_ok
  | quoted quote =>
      obtain ⟨source, -, h⟩ := Result.bind_eq_ok.mp h
      obtain ⟨literal, -, h⟩ := Result.bind_eq_ok.mp h
      rw [cursor_take h]
      exact Nat.lt_succ_self _
  | var =>
      obtain ⟨operand, -, h⟩ := Result.bind_eq_ok.mp h
      rw [cursor_take h]
      exact Nat.lt_succ_self _
  | word => exact lt_takeWord h

variable (ground)

/-- Walks on to the end of the tokens. -/
def run (walker : Walker) : Except Halt (List PlacedPart) :=
  if walker.cursor < ground.tokens.length then
    match _h : ground.step walker with
    | .error halt => .error halt
    | .ok next => run next
  else .ok walker.parts
termination_by ground.tokens.length - walker.cursor
decreasing_by
  have := lt_step _h
  omega

variable {ground} {walker next : Walker}

theorem run_of_not_lt (h : ¬ walker.cursor < ground.tokens.length) :
    ground.run walker = .ok walker.parts := by
  rw [run, if_neg h]

theorem run_of_step_error {halt : Halt} (hlt : walker.cursor < ground.tokens.length)
    (h : ground.step walker = .error halt) : ground.run walker = .error halt := by
  rw [run, if_pos hlt]
  split
  next herror =>
    rw [h] at herror
    cases herror
    rfl
  next hok =>
    rw [h] at hok
    cases hok

theorem run_of_step_ok (hlt : walker.cursor < ground.tokens.length)
    (h : ground.step walker = .ok next) : ground.run walker = ground.run next := by
  rw [run, if_pos hlt]
  split
  next herror =>
    rw [h] at herror
    cases herror
  next hok =>
    rw [h] at hok
    cases hok
    rfl

variable (ground)

/-- A walk comes to some point. -/
inductive Reaches : Walker → Prop where
  | initial : Reaches .initial
  | step {walker next : Walker} (reaches : Reaches walker)
      (hlt : walker.cursor < ground.tokens.length) (hstep : ground.step walker = .ok next) :
      Reaches next

end Ground

/-- What a walk from the byte `start` of a template to the byte `stop` goes over, if these are
places of the template. -/
def groundAt (template : Text) (start stop : Nat) : Except Halt Ground := do
  let content ← Walk.cut template start stop
  return ⟨template, start, lexer.tokens 0 content⟩

/-- The expression that a walk over a stretch of a template comes to. -/
def walkAt (template : Text) (start stop : Nat) : Except Halt (Option Expression) := do
  let ground ← groundAt template start stop
  let parts ← ground.run .initial
  (ofParts parts).mapError .refused

end Expression

end Stencil
