import Stencil.Proofs.Result
import Stencil.Template.Reader

/-! # A scanner that works on characters

A template read in one pass from left to right, one character at a time and with a
look at the next one. The scanner is outside any block, in a block, or in a literal
of a block; blocks leave it as soon as they are complete, and text waits until the
next block or the end of the template. It knows neither regions nor pieces.
-/

namespace Stencil.Scanner

/-- Where a scan stands, with the text since the first brace of the pair that opened the
block. Only that brace has been passed when a block has just been opened, so that the
second brace can be the first one of a later pair. -/
inductive Place where
  | outside
  | block (scanned : Text)
  | literal (quote : Quote) (scanned : Text)

/-- The state of a scan. The offset is that of the next character, or of the pair of braces
that opened the current block. -/
structure State where
  offset : Nat
  blocks : List Block
  pending : Text
  place : Place

/-- Nothing scanned yet. -/
def State.initial : State := ⟨0, [], [], .outside⟩

/-- The blocks found so far; the text that waits becomes one of them unless it is empty. -/
def State.flushed (state : State) : List Block :=
  if state.pending = [] then state.blocks else state.blocks ++ [.text state.pending]

/-- What a closed block becomes that starts at byte `start`. Blanks alone stay text, braces
included; all else is read as an expression without the blanks around it. -/
def closed (start : Nat) (interior : Text) : Except ParseError Block :=
  if interior.trim = [] then .ok (.text (opener ++ interior ++ closer))
  else
    let lead := opener.byteLength + (Text.leadingBlanks interior).byteLength
    (Expression.readAt (start + lead) interior.trim).map fun expression =>
      match expression with
      | some (.operand (.var name)) => .var name
      | some (.operand (.literal literal)) => .literal literal
      | some (.call call) => .call interior.trim call
      -- not reached: what is not blank holds an expression or is refused
      | none => .text interior

/-- One step of a scan from the character `c`; `rest` is what follows that character, and
what is returned beside the state is what the step leaves of it. -/
def State.step (inlineVariables : Bool) (state : State) (c : Char) (rest : Text) :
    Except ParseError (State × Text) :=
  match state.place with
  | .outside =>
    if c = '{' ∧ rest.head? = some '{' then .ok ({ state with place := .block [c] }, rest)
    else if inlineVariables = true ∧ c = '$' ∧ rest.head?.any isNameStart = true then
      let name := rest.takeWhile isNameChar
      .ok (⟨state.offset + Text.byteLength (c :: name), state.flushed ++ [.var name], [], .outside⟩,
        rest.dropWhile isNameChar)
    else
      .ok (⟨state.offset + c.utf8Size, state.blocks, state.pending ++ [c], .outside⟩, rest)
  | .block scanned =>
    if c = '{' ∧ rest.head? = some '{' then
      .ok (⟨state.offset + scanned.byteLength, state.blocks, state.pending ++ scanned,
        .block [c]⟩, rest)
    else if c = '}' ∧ rest.head? = some '}' then
      (closed state.offset (scanned.drop opener.length)).map fun block =>
        (⟨state.offset + (scanned ++ closer).byteLength, state.flushed ++ [block], [], .outside⟩,
          rest.tail)
    else
      match Quote.ofChar? c with
      | some quote => .ok ({ state with place := .literal quote (scanned ++ [c]) }, rest)
      | none => .ok ({ state with place := .block (scanned ++ [c]) }, rest)
  | .literal quote scanned =>
    if c = '\\' ∧ rest.head?.any Text.isEscapable = true then
      .ok ({ state with place := .literal quote (scanned ++ c :: rest.take 1) }, rest.tail)
    else if c = quote.char then .ok ({ state with place := .block (scanned ++ [c]) }, rest)
    else .ok ({ state with place := .literal quote (scanned ++ [c]) }, rest)

/-- The end of a scan: all blocks, or what is still open and where. -/
def State.finish (state : State) : Except ParseError (List Block) :=
  match state.place with
  | .outside => .ok state.flushed
  | .block scanned => .error ⟨.unclosedBlock, state.offset, scanned.byteLength⟩
  | .literal _ scanned => .error ⟨.unclosedLiteral, state.offset, scanned.byteLength⟩

/-- A step leaves no more than it was given. -/
theorem State.length_step_le {inlineVariables : Bool} {state next : State} {c : Char}
    {rest after : Text} (h : state.step inlineVariables c rest = .ok (next, after)) :
    after.length ≤ rest.length := by
  unfold State.step at h
  split at h
  next =>
    split at h
    next =>
      cases h
      exact Nat.le_refl _
    next =>
      split at h
      next =>
        cases h
        exact (List.dropWhile_suffix _).length_le
      next =>
        cases h
        exact Nat.le_refl _
  next =>
    split at h
    next =>
      cases h
      exact Nat.le_refl _
    next =>
      split at h
      next =>
        obtain ⟨block, -, h⟩ := Result.map_eq_ok.mp h
        cases h
        rw [List.length_tail]
        exact Nat.sub_le _ _
      next =>
        split at h <;> cases h <;> exact Nat.le_refl _
  next =>
    split at h
    next =>
      cases h
      rw [List.length_tail]
      exact Nat.sub_le _ _
    next => split at h <;> cases h <;> exact Nat.le_refl _

/-- Scans a text from a state. -/
def State.run (inlineVariables : Bool) (state : State) : Text → Except ParseError (List Block)
  | [] => state.finish
  | c :: rest =>
    match _h : state.step inlineVariables c rest with
    | .error error => .error error
    | .ok (next, after) => next.run inlineVariables after
termination_by text => text.length
decreasing_by exact Nat.lt_succ_of_le (length_step_le _h)

/-- The blocks of a template, or its first fault. -/
def scan (inlineVariables : Bool) (template : Text) : Except ParseError (List Block) :=
  State.initial.run inlineVariables template

end Stencil.Scanner
