import Stencil.Proofs.Expression.Reading

/-! # Expressions in their places

An expression reads the same wherever it stands. Bytes in front of it move the places of
its faults by as much, and change neither what is read nor what is wrong with it.
-/

namespace Stencil

theorem Span.through_shift (count : Nat) (first last : Span) :
    (first.shift count).through (last.shift count) = (first.through last).shift count := by
  simp only [through, shift, stop, Span.mk.injEq, true_and]
  omega

/-- The same token in a text that has `count` more bytes in front. -/
def Token.shift (count : Nat) (token : Token) : Token :=
  ⟨token.lexeme, token.span.shift count, token.spaced⟩

/-- The same part in a text that has `count` more bytes in front. -/
def PlacedPart.shift (count : Nat) (placed : PlacedPart) : PlacedPart :=
  ⟨placed.part, placed.span.shift count⟩

/-! ## What a reader gives -/

namespace Result

variable {α α' β β' : Type} {count : Nat}

/-- What a reader gives in a text that has `count` more bytes in front: a value that is adapted, or
the same fault in its new place. -/
def moved (count : Nat) (adapt : α → β) : Except ParseError α → Except ParseError β
  | .ok a => .ok (adapt a)
  | .error error => .error (error.shift count)

theorem moved_id (count : Nat) (result : Except ParseError α) :
    moved count id result = result.mapError (ParseError.shift count) := by
  cases result <;> rfl

/-- Of two readers one after the other, both can be moved. -/
theorem moved_bind {adapt : α → α'} {last : β → β'} {result : Except ParseError α}
    {next : α → Except ParseError β} {next' : α' → Except ParseError β'}
    (h : ∀ a, next' (adapt a) = moved count last (next a)) :
    moved count adapt result >>= next' = moved count last (result >>= next) := by
  cases result with
  | error error => rfl
  | ok a => exact h a

end Result

open Result (moved moved_bind moved_id)

/-! ## Tokens and parts -/

theorem Token.list_shift (count start : Nat) (spaced : Bool) (text : Text) :
    list (count + start) spaced text = (list start spaced text).map (shift count) := by
  fun_induction list start spaced text with
  | case1 => simp [list]
  | case2 start spaced c rest hc ih =>
      rw [list, if_pos hc, Nat.add_assoc]
      exact ih
  | case3 start spaced c rest hc width ih =>
      rw [list, if_neg hc, List.map_cons, ← ih, ← Nat.add_assoc]
      rfl

namespace Part

variable (count : Nat)

theorem variableNamed_shift (name : Text) (span : Span) :
    variableNamed name (span.shift count) = moved count id (variableNamed name span) := by
  unfold variableNamed
  split
  next => rfl
  next => split <;> rfl

theorem value_shift (token : Token) :
    value (token.shift count) = moved count id (value token) := by
  obtain ⟨lexeme, span, spaced⟩ := token
  cases lexeme with
  | var name => exact variableNamed_shift count name span
  | _ => rfl

theorem placed_shift (token : Token) (part : Part) (span : Span) :
    placed (token.shift count) part (span.shift count) =
      moved count (PlacedPart.shift count) (placed token part span) := by
  unfold placed
  rw [Token.shift]
  split <;> rfl

/-- A part in front of others that are moved. -/
theorem placed_cons_shift {tokens : List Token}
    (h : list (tokens.map (Token.shift count)) =
      moved count (List.map (PlacedPart.shift count)) (list tokens))
    (token : Token) (part : Part) (span : Span) :
    (do return (← placed (token.shift count) part (span.shift count)) ::
        (← list (tokens.map (Token.shift count))) : Except ParseError (List PlacedPart)) =
      moved count (List.map (PlacedPart.shift count))
        (do return (← placed token part span) :: (← list tokens)) := by
  rw [placed_shift, h]
  exact moved_bind fun _ => moved_bind fun _ => rfl

/-- Tokens that are moved make the same parts, moved. -/
theorem list_shift (tokens : List Token) :
    list (tokens.map (Token.shift count)) =
      moved count (List.map (PlacedPart.shift count)) (list tokens) := by
  fun_induction list tokens with
  | case1 => rfl
  | case2 token rest hlexeme =>
      rw [List.map_cons, list, Token.shift, hlexeme]
      rfl
  | case3 token rest quote inner hlexeme =>
      rw [List.map_cons, list, Token.shift, hlexeme]
      rfl
  | case4 token rest quote inner hlexeme ih =>
      rw [← placed_cons_shift count ih, List.map_cons, list, Token.shift, hlexeme]
  | case5 token rest name hlexeme ih =>
      rw [List.map_cons, list, Token.shift, hlexeme]
      dsimp only
      rw [variableNamed_shift]
      exact moved_bind fun operand => placed_cons_shift count ih token _ _
  | case6 token word hlexeme sign hspaced hname =>
      rw [List.map_cons, list, Token.shift, hlexeme, List.map_cons]
      dsimp only [Token.shift]
      rw [if_pos hname]
      rfl
  | case7 token word hlexeme sign hspaced hname last rest ih =>
      rw [List.map_cons, list, Token.shift, hlexeme, List.map_cons]
      dsimp only [Token.shift]
      rw [if_pos hname, List.map_cons]
      dsimp only
      rw [value_shift]
      refine moved_bind fun operand => ?_
      rw [← placed_cons_shift count ih, ← Span.through_shift]
      rfl
  | case8 token word hlexeme sign hspaced rest hname =>
      rw [List.map_cons, list, Token.shift, hlexeme, List.map_cons]
      dsimp only [Token.shift]
      rw [if_neg hname]
      rfl
  | case9 token word hlexeme rest hrest ih =>
      rw [List.map_cons, list, Token.shift, hlexeme]
      dsimp only
      rw [← placed_cons_shift count ih]
      cases rest with
      | nil => rfl
      | cons next rest =>
          obtain ⟨lexeme, span, spaced⟩ := next
          cases lexeme with
          | equals => exact absurd rfl (hrest _ _ _)
          | _ => rfl

end Part

namespace Call

variable (count : Nat)

theorem bindings_shift (position : Nat) (parts : List PlacedPart) :
    bindings position (parts.map (PlacedPart.shift count)) =
      moved count id (bindings position parts) := by
  fun_induction bindings position parts with
  | case1 => rfl
  | case2 position binding span rest ih =>
      rw [List.map_cons, PlacedPart.shift, bindings, ih]
      exact moved_bind fun _ => rfl
  | case3 => rfl
  | case4 => rfl

theorem ofParts_shift (function : FunctionRef) (parts : List PlacedPart) :
    ofParts function (parts.map (PlacedPart.shift count)) =
      moved count id (ofParts function parts) := by
  have hnamed (input : Option Operand) (position : Nat) (rest : List PlacedPart) :
      (do return ⟨function, input, ← bindings position (rest.map (PlacedPart.shift count))⟩ :
          Except ParseError Call) =
        moved count id (do return ⟨function, input, ← bindings position rest⟩) := by
    rw [bindings_shift]
    exact moved_bind fun _ => rfl
  cases parts with
  | nil => exact hnamed none 1 []
  | cons first rest =>
      obtain ⟨part, span⟩ := first
      cases part with
      | operand operand => exact hnamed (some operand) 2 rest
      | word word => exact hnamed none 1 (⟨.word word, span⟩ :: rest)
      | binding binding => exact hnamed none 1 (⟨.binding binding, span⟩ :: rest)

end Call

namespace Expression

theorem ofParts_shift (count : Nat) (parts : List PlacedPart) :
    ofParts (parts.map (PlacedPart.shift count)) = moved count id (ofParts parts) := by
  cases parts with
  | nil => rfl
  | cons first rest =>
      obtain ⟨part, span⟩ := first
      cases part with
      | binding binding => rfl
      | operand operand => cases rest <;> rfl
      | word word =>
          rw [List.map_cons, PlacedPart.shift, ofParts, ofParts]
          cases FunctionRef.ofWord word with
          | error cause => rfl
          | ok function =>
              dsimp only
              rw [Call.ofParts_shift]
              exact moved_bind fun _ => rfl

/-- An expression behind `count` more bytes reads the same, and its fault has its new place. -/
theorem readAt_shift (count start : Nat) (text : Text) :
    readAt (count + start) text = (readAt start text).mapError (ParseError.shift count) := by
  rw [readAt, Token.list_shift, Part.list_shift, ← moved_id]
  exact moved_bind fun parts => ofParts_shift count parts

end Expression

end Stencil
