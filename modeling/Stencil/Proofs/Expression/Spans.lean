import Stencil.Proofs.Expression.Parts
import Stencil.Proofs.Text.Stretch

/-! # The places of faults in an expression

Tokens lie in a text one behind the other, each where its characters stand. Parts are made of
tokens, and what is at fault is a token, a part, or all that a part goes over. So whatever is wrong
with an expression, the span of its fault marks some characters of it.
-/

namespace Stencil

/-- A result whose value satisfies a condition, or whose fault marks some of a text. -/
abbrev Result.Points {α : Type} (text : Text) (value : α → Prop) : Except ParseError α → Prop :=
  Meets value fun error => error.span.Within text

open Result (Points)

/-- Two spans that mark something mark together all that stands from the first to the second. -/
theorem Span.Within.through {text before first between last after : Text}
    (htext : text = before ++ first ++ between ++ last ++ after) (hne : first ≠ []) :
    (Span.through ⟨before.byteLength, first.byteLength⟩
      ⟨Text.byteLength (before ++ first ++ between), last.byteLength⟩).Within text := by
  refine ⟨first ++ between ++ last, by simp [hne], before, after, by simp [htext], ?_⟩
  simp only [Span.through, Span.stop, Text.byteLength_append, Span.mk.injEq, true_and]
  omega

/-! ## Tokens -/

/-- Tokens that lie one behind the other in a text, none of them within its first characters
`before`. What stands between two of them is left open. -/
inductive Token.Laid (text : Text) : Text → List Token → Prop where
  | nil {before : Text} : Laid text before []
  | cons {before front rest : Text} {lexeme : Lexeme} {spaced : Bool} {tokens : List Token}
      (hfront : before <+: front) (htext : text = front ++ lexeme.source ++ rest)
      (hne : lexeme.source ≠ []) (laid : Laid text (front ++ lexeme.source) tokens) :
      Laid text before (⟨lexeme, ⟨front.byteLength, lexeme.source.byteLength⟩, spaced⟩ :: tokens)

namespace Token

variable {text before : Text} {tokens : List Token}

theorem Laid.of_prefix {front : Text} (laid : Laid text front tokens) (h : before <+: front) :
    Laid text before tokens := by
  cases laid with
  | nil => exact .nil
  | cons hfront htext hne laid => exact .cons (h.trans hfront) htext hne laid

/-- The tokens of a text lie in it, whatever stands in front of it. -/
theorem laid_list (before text : Text) (spaced : Bool) :
    Laid (before ++ text) before (list before.byteLength spaced text) := by
  generalize hstart : before.byteLength = start
  fun_induction list start spaced text generalizing before with
  | case1 => exact .nil
  | case2 start spaced c rest hc ih =>
      have hwidth : c.utf8Size = 1 := by
        simp only [Lexeme.isSeparator, Bool.or_eq_true, beq_iff_eq] at hc
        rcases hc with ((rfl | rfl) | rfl) | rfl <;> rfl
      have laid := ih (before ++ [c]) (by simp [hstart, hwidth])
      rw [List.append_assoc, List.singleton_append] at laid
      exact laid.of_prefix (List.prefix_append before [c])
  | case3 start spaced c rest hc width ih =>
      have hsource := Lexeme.source_next c rest
      have laid := ih (before ++ (Lexeme.next c rest).1.source) (by simp [hstart, width])
      rw [List.append_assoc, hsource] at laid
      rw [← hstart] at laid ⊢
      exact .cons List.prefix_rfl (by rw [List.append_assoc, hsource])
        (Lexeme.source_ne_nil c rest) laid

variable {token : Token}

theorem Laid.within (laid : Laid text before (token :: tokens)) : token.span.Within text := by
  cases laid with
  | @cons _ front rest lexeme _ _ _ htext hne _ =>
      exact ⟨lexeme.source, hne, front, rest, htext, rfl⟩

theorem Laid.tail (laid : Laid text before (token :: tokens)) : Laid text before tokens := by
  cases laid with
  | cons hfront _ _ laid => exact laid.of_prefix (hfront.trans (List.prefix_append _ _))

/-- From a token to the second one behind it there is a stretch of the text. -/
theorem Laid.within_through {sign last : Token}
    (laid : Laid text before (token :: sign :: last :: tokens)) :
    (token.span.through last.span).Within text := by
  cases laid with
  | @cons _ front _ lexeme _ _ _ _ hne laid =>
      cases laid.tail with
      | cons hbehind htext _ _ =>
          obtain ⟨between, rfl⟩ := hbehind
          exact .through htext hne

end Token

/-! ## Parts -/

namespace Part

variable {text : Text}

theorem variableNamed_points (name : Text) {span : Span} (hspan : span.Within text) :
    Points text (fun _ => True) (variableNamed name span) := by
  unfold variableNamed
  split
  next => exact hspan
  next =>
    split
    next => trivial
    next => exact hspan

theorem value_points {token : Token} (hspan : token.span.Within text) :
    Points text (fun _ => True) (value token) := by
  unfold value
  split
  next => trivial
  next => exact variableNamed_points _ hspan
  all_goals exact hspan

/-- Parts whose spans mark something. -/
def AllWithin (text : Text) (parts : List PlacedPart) : Prop :=
  ∀ placed ∈ parts, placed.span.Within text

theorem placed_cons_points {tokens : List Token} (token : Token) (part : Part) {span : Span}
    (hspan : span.Within text)
    (h : Points text (AllWithin text) (list tokens)) :
    Points text (AllWithin text) (do
      let first ← placed token part span
      return first :: (← list tokens)) := by
  have hplaced : Points text (fun placed => placed.span.Within text)
      (placed token part span) := by
    unfold placed
    split <;> exact hspan
  refine hplaced.bind fun first hfirst => h.bind fun rest hrest => ?_
  exact List.forall_mem_cons.mpr ⟨hfirst, hrest⟩

/-- Tokens that lie in a text are grouped into parts that mark some of it, and so does a fault. -/
theorem list_points {before : Text} {tokens : List Token} (laid : Token.Laid text before tokens) :
    Points text (AllWithin text) (list tokens) := by
  fun_induction list tokens with
  | case1 => exact List.forall_mem_nil _
  | case2 => exact laid.within
  | case3 => exact laid.within
  | case4 token rest quote inner hlexeme ih =>
      exact placed_cons_points token _ laid.within (ih laid.tail)
  | case5 token rest name hlexeme ih =>
      refine (variableNamed_points name laid.within).bind fun operand _ => ?_
      exact placed_cons_points token _ laid.within (ih laid.tail)
  | case6 => exact laid.tail.within
  | case7 token word hlexeme sign hspaced hname last rest ih =>
      refine (value_points laid.tail.tail.within).bind fun operand _ => ?_
      exact placed_cons_points token _ laid.within_through (ih laid.tail.tail.tail)
  | case8 => exact laid.within
  | case9 token word hlexeme rest hrest ih =>
      exact placed_cons_points token _ laid.within (ih laid.tail)

end Part

/-! ## Expressions -/

open Stencil.Part (AllWithin)

variable {text : Text}

theorem Call.bindings_points {parts : List PlacedPart} (hparts : AllWithin text parts)
    (position : Nat) :
    Points text (fun _ => True) (bindings position parts) := by
  fun_induction bindings position parts with
  | case1 => trivial
  | case2 position binding span rest ih =>
      exact (ih (List.forall_mem_cons.mp hparts).2).bind fun _ _ => trivial
  | case3 => exact (List.forall_mem_cons.mp hparts).1
  | case4 => exact (List.forall_mem_cons.mp hparts).1

theorem Call.ofParts_points {parts : List PlacedPart} (hparts : AllWithin text parts)
    (function : FunctionRef) :
    Points text (fun _ => True) (ofParts function parts) := by
  unfold ofParts
  split
  next =>
    exact (bindings_points (List.forall_mem_cons.mp hparts).2 2).bind fun _ _ => trivial
  next => exact (bindings_points hparts 1).bind fun _ _ => trivial

namespace Expression

theorem ofParts_points {parts : List PlacedPart} (hparts : AllWithin text parts) :
    Points text (fun _ => True) (ofParts parts) := by
  unfold ofParts
  split
  next => trivial
  next => exact (List.forall_mem_cons.mp hparts).1
  next => trivial
  next =>
    -- what is too much is the second part
    exact (List.forall_mem_cons.mp (List.forall_mem_cons.mp hparts).2).1
  next =>
    obtain ⟨hfirst, hrest⟩ := List.forall_mem_cons.mp hparts
    split
    next => exact hfirst
    next => exact (Call.ofParts_points hrest _).bind fun _ _ => trivial

/-- A text that is no expression is refused for some of its characters. -/
theorem within_of_read_eq_error {error : ParseError} (h : read text = .error error) :
    error.span.Within text := by
  have hparts := Part.list_points (Token.laid_list [] text true)
  have hread : Points text (fun _ => True) (read text) :=
    hparts.bind fun _ => ofParts_points
  rw [h] at hread
  exact hread

end Expression

end Stencil
