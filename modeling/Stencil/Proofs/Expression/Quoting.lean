import Stencil.Proofs.Expression.Reading

/-! # Quoted text

What may stand between two quotes, what it stands for, and when it can be read. A text
between quotes is read as a literal unless one of its backslashes stands before a line
feed; such a literal is closed and is refused nevertheless. Every text has a written form
without such backslashes, so every text can be the value of a literal.
-/

namespace Stencil

open Grammar

/-- What may stand between two quotes of a kind, and the text it stands for: every such quote in
it has a backslash of its own, and no backslash is left over at the end. A backslash disappears
before a quote or a backslash, and stays before every other character. -/
inductive Enclosed (quote : Quote) : Text → Text → Prop where
  | nil : Enclosed quote [] []
  | plain {c : Char} {source value : Text} (hquote : c ≠ quote.char) (hslash : c ≠ '\\')
      (rest : Enclosed quote source value) : Enclosed quote (c :: source) (c :: value)
  | escape {c : Char} {source value : Text} (hc : Escapable c)
      (rest : Enclosed quote source value) : Enclosed quote ('\\' :: c :: source) (c :: value)
  | kept {c : Char} {source value : Text} (hc : ¬ Escapable c)
      (rest : Enclosed quote source value) :
      Enclosed quote ('\\' :: c :: source) ('\\' :: c :: value)

namespace Text

/-- Whether a backslash that is not itself taken by a backslash stands before a line feed. -/
def breaksLine : Text → Bool
  | [] => false
  | [_] => false
  | c :: d :: rest => if c = '\\' then d == '\n' || breaksLine rest else breaksLine (d :: rest)

theorem breaksLine_cons {c : Char} (hc : c ≠ '\\') (rest : Text) :
    breaksLine (c :: rest) = breaksLine rest := by
  cases rest with
  | nil => rfl
  | cons d rest => rw [breaksLine, if_neg hc]

theorem breaksLine_pair (c : Char) (rest : Text) :
    breaksLine ('\\' :: c :: rest) = (c == '\n' || breaksLine rest) := by
  rw [breaksLine, if_pos rfl]

end Text

theorem Grammar.Escapable.ne_newline {c : Char} (hc : Escapable c) : (c == '\n') = false := by
  rcases hc with rfl | rfl | rfl <;> rfl

/-- The inside of a literal is what may stand between its quotes and breaks no line. -/
theorem inside_iff_enclosed {quote : Quote} {source value : Text} :
    Inside quote source value ↔ Enclosed quote source value ∧ source.breaksLine = false := by
  constructor
  · intro inside
    induction inside with
    | nil => exact ⟨.nil, rfl⟩
    | plain hquote hslash _ ih =>
        rw [Text.breaksLine_cons hslash]
        exact ⟨.plain hquote hslash ih.1, ih.2⟩
    | escape hc _ ih =>
        rw [Text.breaksLine_pair, hc.ne_newline, Bool.false_or]
        exact ⟨.escape hc ih.1, ih.2⟩
    | kept hc hline _ ih =>
        rw [Text.breaksLine_pair, beq_false_of_ne hline, Bool.false_or]
        exact ⟨.kept hc ih.1, ih.2⟩
  · rintro ⟨enclosed, hbreaks⟩
    induction enclosed with
    | nil => exact .nil
    | plain hquote hslash _ ih =>
        rw [Text.breaksLine_cons hslash] at hbreaks
        exact .plain hquote hslash (ih hbreaks)
    | escape hc _ ih =>
        rw [Text.breaksLine_pair, hc.ne_newline, Bool.false_or] at hbreaks
        exact .escape hc (ih hbreaks)
    | kept hc _ ih =>
        rw [Text.breaksLine_pair, Bool.or_eq_false_iff, beq_eq_false_iff_ne] at hbreaks
        exact .kept hc hbreaks.1 (ih hbreaks.2)

namespace Lexeme

theorem closing_newline (quote : Quote) (rest : Text) :
    closing quote ('\\' :: '\n' :: rest) = none := by
  cases quote <;> rfl

/-- A literal that breaks a line has no closing quote for the reader of expressions. -/
theorem closing_eq_none {quote : Quote} {source value : Text}
    (enclosed : Enclosed quote source value) (hbreaks : source.breaksLine = true) (rest : Text) :
    closing quote (source ++ quote.char :: rest) = none := by
  -- behind a backslash that does not break the line the literal goes on
  have hpair (c : Char) (tail : Text) (ih : tail.breaksLine = true →
        closing quote (tail ++ quote.char :: rest) = none)
      (h : (c == '\n' || tail.breaksLine) = true) :
      closing quote ('\\' :: c :: tail ++ quote.char :: rest) = none := by
    by_cases hline : c = '\n'
    · subst hline
      exact closing_newline quote _
    · rw [beq_false_of_ne hline, Bool.false_or] at h
      rw [List.cons_append, List.cons_append, closing_pair hline, ih h, Option.map_none]
  induction enclosed with
  | nil => cases hbreaks
  | plain hquote hslash _ ih =>
      rw [Text.breaksLine_cons hslash] at hbreaks
      rw [List.cons_append, closing_plain hquote hslash, ih hbreaks, Option.map_none]
  | @escape c source value hc _ ih =>
      rw [Text.breaksLine_pair] at hbreaks
      exact hpair c source ih hbreaks
  | @kept c source value hc _ ih =>
      rw [Text.breaksLine_pair] at hbreaks
      exact hpair c source ih hbreaks

/-- Text between quotes is read as one literal, or takes all that follows. -/
theorem next_enclosed {quote : Quote} {source value : Text}
    (enclosed : Enclosed quote source value) (rest : Text) :
    next quote.char (source ++ quote.char :: rest) =
      if source.breaksLine then (.unclosed quote (source ++ quote.char :: rest), [])
      else (.quoted quote source, rest) := by
  split
  next hbreaks =>
    have hequals : quote.char ≠ '=' := by cases quote <;> decide
    have hdollar : quote.char ≠ '$' := by cases quote <;> decide
    rw [next, if_neg hequals, if_neg hdollar, Quote.ofChar?_char]
    simp only [closing_eq_none enclosed hbreaks]
  next hbreaks =>
    have inside := inside_iff_enclosed.mpr ⟨enclosed, Bool.eq_false_iff.mpr hbreaks⟩
    exact next_literal inside rest

end Lexeme

namespace Expression

/-- Text between quotes alone stands for its value, unless it breaks a line. -/
theorem read_enclosed {quote : Quote} {source value : Text}
    (enclosed : Enclosed quote source value) :
    read (quote.char :: source ++ [quote.char]) =
      if source.breaksLine then
        .error ⟨.unbalancedQuote, 0, Text.byteLength (quote.char :: source ++ [quote.char])⟩
      else .ok (some (.operand (.literal ⟨quote, value⟩))) := by
  split
  next hbreaks =>
    have hsep : ¬ Lexeme.isSeparator quote.char = true := by cases quote <;> decide
    have hnext := Lexeme.next_enclosed enclosed []
    rw [if_pos hbreaks] at hnext
    have htokens : Token.list 0 true (quote.char :: (source ++ [quote.char])) =
        [⟨.unclosed quote (source ++ [quote.char]),
          ⟨0, Text.byteLength (quote.char :: (source ++ [quote.char]))⟩, true⟩] := by
      rw [Token.list, if_neg hsep, hnext]
      dsimp only
      rw [Token.list]
      rfl
    rw [read, readAt, List.cons_append, htokens]
    rfl
  next hbreaks =>
    have inside := inside_iff_enclosed.mpr ⟨enclosed, Bool.eq_false_iff.mpr hbreaks⟩
    exact readAt_eq_ok.mpr (Argument.literal inside).derives

end Expression

/-! ## Writing a literal -/

namespace Literal

/-- A value as it is written between its quotes: a backslash goes before every backslash and
before every quote of the kind around it. -/
def escape (quote : Quote) (value : Text) : Text :=
  value.flatMap fun c => if c = '\\' ∨ c = quote.char then ['\\', c] else [c]

/-- The literal as it can be written in a template. -/
def written (literal : Literal) : Text :=
  literal.quote.char :: escape literal.quote literal.value ++ [literal.quote.char]

theorem escape_cons (quote : Quote) (c : Char) (value : Text) :
    escape quote (c :: value) =
      (if c = '\\' ∨ c = quote.char then ['\\', c] else [c]) ++ escape quote value := rfl

/-- What is written for a value stands for it. -/
theorem inside_escape (quote : Quote) (value : Text) :
    Inside quote (escape quote value) value := by
  induction value with
  | nil => exact .nil
  | cons c value ih =>
      rw [escape_cons]
      split
      next hc =>
        have hescapable : Escapable c := by
          rcases hc with rfl | rfl
          · exact .inr (.inr rfl)
          · cases quote
            · exact .inl rfl
            · exact .inr (.inl rfl)
        exact .escape hescapable ih
      next hc =>
        obtain ⟨hslash, hquote⟩ := not_or.mp hc
        exact .plain hquote hslash ih

theorem argument_written (literal : Literal) : Argument literal.written (.literal literal) :=
  .literal (inside_escape literal.quote literal.value)

end Literal

end Stencil
