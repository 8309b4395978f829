import Stencil.Proofs.Expression.Grammar

/-! # Tokens read from known text

What the first token of a text is when the text is known to start with a literal, a
variable, a word or an equals sign, and how the tokens of a text go on after a gap.
A token takes as much as it can, so each of these says what may follow.
-/

namespace Stencil

open Grammar

namespace Text

/-- A character that is no backslash stands for itself. -/
theorem unescape_cons {c : Char} (hc : c ≠ '\\') (rest : Text) :
    unescape (c :: rest) = c :: unescape rest := by
  cases rest with
  | nil => rfl
  | cons d rest => rw [unescape, if_neg (fun hand => hc hand.1)]

theorem unescape_escape {c : Char} (hc : Escapable c) (rest : Text) :
    unescape ('\\' :: c :: rest) = c :: unescape rest := by
  rw [unescape, if_pos ⟨rfl, isEscapable_iff.mpr hc⟩]

/-- A backslash before another character is kept, and so is that character. -/
theorem unescape_kept {c : Char} (hc : ¬ Escapable c) (rest : Text) :
    unescape ('\\' :: c :: rest) = '\\' :: c :: unescape rest := by
  have hplain : c ≠ '\\' := fun heq => hc (.inr (.inr heq))
  rw [unescape, if_neg (fun hand => hc (isEscapable_iff.mp hand.2)), unescape_cons hplain]

end Text

namespace Lexeme

/-! ## Literals -/

theorem closing_char (quote : Quote) (rest : Text) :
    closing quote (quote.char :: rest) = some ([], rest) := by
  rw [closing.eq_def]
  exact if_pos rfl

theorem closing_plain {quote : Quote} {c : Char} (hquote : c ≠ quote.char) (hslash : c ≠ '\\')
    (rest : Text) : closing quote (c :: rest) =
      (closing quote rest).map fun (inner, after) => (c :: inner, after) := by
  rw [closing.eq_def]
  exact (if_neg hquote).trans (if_neg hslash)

/-- A backslash takes the next character with it. -/
theorem closing_pair {quote : Quote} {c : Char} (hline : c ≠ '\n') (rest : Text) :
    closing quote ('\\' :: c :: rest) =
      (closing quote rest).map fun (inner, after) => ('\\' :: c :: inner, after) := by
  have hslash : '\\' ≠ quote.char := by cases quote <;> decide
  rw [closing.eq_def]
  exact (if_neg hslash).trans ((if_pos rfl).trans (if_neg hline))

/-- What stands before the closing quote is the inside of a literal. -/
theorem inside_of_closing {quote : Quote} {text inner after : Text}
    (h : closing quote text = some (inner, after)) : Inside quote inner inner.unescape := by
  fun_induction closing quote text generalizing inner after with
  | case1 => cases h
  | case2 rest =>
      cases h
      exact .nil
  | case3 => cases h
  | case4 => cases h
  | case5 d rest hline hquote ih =>
      obtain ⟨⟨source, tail⟩, hsource, heq⟩ := Option.map_eq_some_iff.mp h
      cases heq
      by_cases hd : Escapable d
      · rw [Text.unescape_escape hd]
        exact .escape hd (ih hsource)
      · rw [Text.unescape_kept hd]
        exact .kept hd hline (ih hsource)
  | case6 c rest hquote hslash ih =>
      obtain ⟨⟨source, tail⟩, hsource, heq⟩ := Option.map_eq_some_iff.mp h
      cases heq
      rw [Text.unescape_cons hslash]
      exact .plain hquote hslash (ih hsource)

/-- A literal ends at its quote, whatever follows. -/
theorem closing_of_inside {quote : Quote} {source value : Text}
    (h : Inside quote source value) (rest : Text) :
    closing quote (source ++ quote.char :: rest) = some (source, rest) := by
  induction h with
  | nil => exact closing_char quote rest
  | plain hquote hc _ ih => rw [List.cons_append, closing_plain hquote hc, ih, Option.map_some]
  | @escape c source value hc _ ih =>
      have hline : c ≠ '\n' := by
        rcases hc with rfl | rfl | rfl <;> decide
      rw [List.cons_append, List.cons_append, closing_pair hline, ih, Option.map_some]
  | kept _ hline _ ih =>
      rw [List.cons_append, List.cons_append, closing_pair hline, ih, Option.map_some]

/-- The inside of a literal stands for its unescaped form. -/
theorem unescape_of_inside {quote : Quote} {source value : Text}
    (h : Inside quote source value) : source.unescape = value := by
  induction h with
  | nil => rfl
  | plain _ hslash _ ih => rw [Text.unescape_cons hslash, ih]
  | escape hc _ ih => rw [Text.unescape_escape hc, ih]
  | kept hc _ _ ih => rw [Text.unescape_kept hc, ih]

/-! ## The first token -/

/-- A run of characters of one kind ends before the first character of another. -/
theorem span_append {p : Char → Bool} {run rest : Text} (hrun : ∀ c ∈ run, p c = true)
    (hrest : ∀ c ∈ rest.head?, p c = false) :
    (run ++ rest).takeWhile p = run ∧ (run ++ rest).dropWhile p = rest := by
  have htake : rest.takeWhile p = [] ∧ rest.dropWhile p = rest := by
    cases rest with
    | nil => exact ⟨rfl, rfl⟩
    | cons c rest =>
        have hc : ¬ p c = true := by
          rw [hrest c rfl]
          exact Bool.false_ne_true
        exact ⟨List.takeWhile_cons_of_neg hc, List.dropWhile_cons_of_neg hc⟩
  rw [List.takeWhile_append_of_pos hrun, List.dropWhile_append_of_pos hrun, htake.1, htake.2]
  exact ⟨List.append_nil run, rfl⟩

theorem next_equals (rest : Text) : next '=' rest = (.equals, rest) := rfl

/-- A literal is read up to its closing quote. -/
theorem next_literal {quote : Quote} {source value : Text} (h : Inside quote source value)
    (rest : Text) :
    next quote.char (source ++ quote.char :: rest) = (.quoted quote source, rest) := by
  have hequals : quote.char ≠ '=' := by cases quote <;> decide
  have hdollar : quote.char ≠ '$' := by cases quote <;> decide
  rw [next, if_neg hequals, if_neg hdollar, Quote.ofChar?_char]
  simp only [closing_of_inside h]

theorem next_var {name rest : Text} (hname : ∀ c ∈ name, isVariableChar c = true)
    (hrest : ∀ c ∈ rest.head?, isVariableChar c = false) :
    next '$' (name ++ rest) = (.var name, rest) := by
  obtain ⟨htake, hdrop⟩ := span_append hname hrest
  rw [next, if_neg (by decide), if_pos rfl, htake, hdrop]

/-- A word starts with none of the characters that start another token. -/
theorem ofChar?_of_isWordChar {c : Char} (h : isWordChar c = true) :
    c ≠ '=' ∧ c ≠ '$' ∧ Quote.ofChar? c = none ∧ isSeparator c = false := by
  simp only [isWordChar, isVariableChar, Bool.and_eq_true, Bool.not_eq_true',
    Bool.or_eq_false_iff, bne_iff_ne, beq_eq_false_iff_ne] at h
  obtain ⟨⟨⟨⟨hsep, hequals⟩, hsingle⟩, hdouble⟩, hdollar⟩ := h
  exact ⟨hequals, hdollar, by rw [Quote.ofChar?, if_neg hsingle, if_neg hdouble], hsep⟩

theorem next_word {c : Char} {word rest : Text} (hc : isWordChar c = true)
    (hword : ∀ d ∈ word, isWordChar d = true)
    (hrest : ∀ d ∈ rest.head?, isWordChar d = false) :
    next c (word ++ rest) = (.word (c :: word), rest) := by
  obtain ⟨hequals, hdollar, hquote, -⟩ := ofChar?_of_isWordChar hc
  obtain ⟨htake, hdrop⟩ := span_append hword hrest
  rw [next, if_neg hequals, if_neg hdollar, hquote, htake, hdrop]

theorem next_ne_equals {c : Char} (hc : c ≠ '=') (rest : Text) : (next c rest).1 ≠ .equals := by
  rw [next, if_neg hc]
  split
  next => exact Lexeme.noConfusion
  next =>
    split
    next => split <;> exact Lexeme.noConfusion
    next => exact Lexeme.noConfusion

/-- The inside of a literal that was read is one of the grammar. -/
theorem inside_of_next {c : Char} {rest inner after : Text} {quote : Quote}
    (h : next c rest = (.quoted quote inner, after)) : Inside quote inner inner.unescape := by
  unfold next at h
  split at h
  next => cases h
  next =>
    split at h
    next => cases h
    next =>
      split at h
      next =>
        split at h
        next hclosing =>
          cases h
          exact inside_of_closing hclosing
        next => cases h
      next => cases h

/-- A word that was read is a non-empty run of word characters. -/
theorem isWordChar_of_next {c : Char} {rest word after : Text} (hc : isSeparator c = false)
    (h : next c rest = (.word word, after)) :
    word ≠ [] ∧ ∀ d ∈ word, isWordChar d = true := by
  unfold next at h
  split at h
  next => cases h
  next hequals =>
    split at h
    next => cases h
    next hdollar =>
      split at h
      next => split at h <;> cases h
      next hquote =>
        cases h
        have hhead : isWordChar c = true := by
          unfold Quote.ofChar? at hquote
          split at hquote
          next => cases hquote
          next hsingle =>
            split at hquote
            next => cases hquote
            next hdouble =>
              simp [isWordChar, isVariableChar, hc, hequals, hdollar, hsingle, hdouble]
        refine ⟨List.cons_ne_nil _ _, List.forall_mem_cons.mpr ⟨hhead, ?_⟩⟩
        exact List.all_eq_true.mp List.all_takeWhile

end Lexeme

namespace Token

/-! ## Tokens after a gap -/

/-- After a gap the tokens go on with the first one of the text behind it. -/
theorem list_gap_append {gap more after : Text} {c : Char} {lexeme : Lexeme} (hgap : Gap gap)
    (hc : Lexeme.isSeparator c = false) (hnext : Lexeme.next c more = (lexeme, after))
    (start : Nat) (spaced : Bool) :
    ∃ span stop, Token.list start spaced (gap ++ c :: more) =
      ⟨lexeme, span, spaced || !gap.isEmpty⟩ :: Token.list stop false after := by
  induction gap generalizing start spaced with
  | nil =>
      have hc' : ¬ Lexeme.isSeparator c = true := by
        rw [hc]
        exact Bool.false_ne_true
      rw [List.nil_append, Token.list, if_neg hc', List.isEmpty_nil, Bool.not_true, Bool.or_false,
        hnext]
      exact ⟨_, _, rfl⟩
  | cons d rest ih =>
      obtain ⟨hd, hrest⟩ := List.forall_mem_cons.mp hgap
      obtain ⟨span, stop, hlist⟩ := ih hrest (start + 1) true
      refine ⟨span, stop, ?_⟩
      rw [List.cons_append, Token.list, if_pos (isSeparator_iff.mpr hd), hlist, Bool.true_or,
        List.isEmpty_cons, Bool.not_false, Bool.or_true]

/-- A text without tokens is a gap. -/
theorem gap_of_list_eq_nil {start : Nat} {spaced : Bool} {text : Text}
    (h : Token.list start spaced text = []) : Gap text := by
  induction text generalizing start spaced with
  | nil => exact .nil
  | cons c rest ih =>
      rw [Token.list] at h
      split at h
      next hc => exact .cons (isSeparator_iff.mp hc) (ih h)
      next => cases h

/-- A text with a first token is a gap, the source of that token, and the text of the
other tokens. -/
theorem exists_of_list_eq_cons {start : Nat} {spaced : Bool} {text : Text} {token : Token}
    {rest : List Token} (h : Token.list start spaced text = token :: rest) :
    ∃ gap c more after stop, text = gap ++ (token.lexeme.source ++ after) ∧ Gap gap ∧
      Lexeme.isSeparator c = false ∧ Lexeme.next c more = (token.lexeme, after) ∧
      token.spaced = (spaced || !gap.isEmpty) ∧ Token.list stop false after = rest := by
  induction text generalizing start spaced with
  | nil =>
      rw [Token.list] at h
      cases h
  | cons c more ih =>
      rw [Token.list] at h
      split at h
      next hc =>
        obtain ⟨gap, d, tail, after, stop, rfl, hgap, hd, hnext, hspaced, hrest⟩ := ih h
        refine ⟨c :: gap, d, tail, after, stop, rfl, .cons (isSeparator_iff.mp hc) hgap, hd,
          hnext, ?_, hrest⟩
        rw [hspaced, Bool.true_or, List.isEmpty_cons, Bool.not_false, Bool.or_true]
      next hc =>
        cases h
        refine ⟨[], c, more, _, _, (Lexeme.source_next c more).symm, .nil,
          Bool.not_eq_true _ ▸ hc, rfl, ?_, rfl⟩
        rw [List.isEmpty_nil, Bool.not_true, Bool.or_false]

end Token

end Stencil
