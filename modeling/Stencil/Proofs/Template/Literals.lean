import Mathlib.Data.List.Basic
import Stencil.Proofs.Template.Passing
import Stencil.Proofs.Template.Refusals

/-! # The literals of a block

Literals are found twice: by the scan that looks for the end of a block, and by the
reader of the expression in it. Both find the same literals up to the first one in which
a backslash stands before a line feed. That literal is closed for the scan and is never
closed for the reader, which takes it for the rest of the block.
-/

namespace Stencil

open Grammar
open Text (Blanks)

/-- A literal as it stands in a template: its quote and what is written behind it up to the next
one. -/
structure Quotation where
  quote : Quote
  source : Text
deriving DecidableEq

def Quotation.breaksLine (quotation : Quotation) : Bool := quotation.source.breaksLine

/-- A text cut into literals and other characters: every quote outside a literal starts one, and
it goes on up to the next quote of its kind that has no backslash of its own. -/
inductive Cut : Text → List Quotation → Prop where
  | nil : Cut [] []
  | char {c : Char} {rest : Text} {literals : List Quotation} (hc : Quote.ofChar? c = none)
      (tail : Cut rest literals) : Cut (c :: rest) literals
  | literal {quote : Quote} {source value rest : Text} {literals : List Quotation}
      (enclosed : Enclosed quote source value) (tail : Cut rest literals) :
      Cut (quote.char :: source ++ quote.char :: rest) (⟨quote, source⟩ :: literals)

/-! ## Cutting a text -/

namespace Cut

theorem append {first rest : Text} {literals more : List Quotation} (hfirst : Cut first literals)
    (hrest : Cut rest more) : Cut (first ++ rest) (literals ++ more) := by
  induction hfirst with
  | nil => exact hrest
  | char hc _ ih => exact .char hc ih
  | literal enclosed _ ih =>
      rw [List.append_assoc]
      exact .literal enclosed ih

theorem of_nil {literals : List Quotation} (cut : Cut [] literals) : literals = [] := by
  generalize htext : ([] : Text) = text at cut
  cases cut with
  | nil => rfl
  | char => cases htext
  | literal => cases htext

/-- A character that is no quote is in no literal if none is open. -/
theorem of_cons {c : Char} {rest : Text} {literals : List Quotation}
    (cut : Cut (c :: rest) literals) (hc : Quote.ofChar? c = none) : Cut rest literals := by
  generalize htext : c :: rest = text at cut
  cases cut with
  | nil => cases htext
  | char _ tail =>
      obtain ⟨-, rfl⟩ := List.cons.inj htext
      exact tail
  | literal =>
      obtain ⟨rfl, -⟩ := List.cons.inj htext
      rw [Quote.ofChar?_char] at hc
      cases hc

/-- A quote starts the first of the literals. -/
theorem exists_of_quote {quote : Quote} {rest : Text} {literals : List Quotation}
    (cut : Cut (quote.char :: rest) literals) :
    ∃ source value after more, rest = source ++ quote.char :: after ∧
      Enclosed quote source value ∧ literals = ⟨quote, source⟩ :: more ∧ Cut after more := by
  generalize htext : quote.char :: rest = text at cut
  cases cut with
  | nil => cases htext
  | char hc =>
      obtain ⟨rfl, -⟩ := List.cons.inj htext
      rw [Quote.ofChar?_char] at hc
      cases hc
  | @literal other source value after more enclosed tail =>
      obtain ⟨hquote, rfl⟩ := List.cons.inj htext
      have hsame : quote = other := by
        have h := congrArg Quote.ofChar? hquote
        rw [Quote.ofChar?_char, Quote.ofChar?_char] at h
        exact Option.some.inj h
      subst hsame
      exact ⟨source, value, after, more, rfl, enclosed, rfl, tail⟩

/-- Characters that are no quotes may be left out in front. -/
theorem of_append {front rest : Text} {literals : List Quotation}
    (hfront : ∀ c ∈ front, Quote.ofChar? c = none) (cut : Cut (front ++ rest) literals) :
    Cut rest literals := by
  induction front with
  | nil => exact cut
  | cons c front ih =>
      obtain ⟨hc, hfront⟩ := List.forall_mem_cons.mp hfront
      exact ih hfront (cut.of_cons hc)

/-- They may be left out at the end as well, for a literal ends with a quote. -/
theorem of_append_right {text trail : Text} {literals : List Quotation}
    (htrail : ∀ c ∈ trail, Quote.ofChar? c = none) (cut : Cut (text ++ trail) literals) :
    Cut text literals := by
  generalize hall : text ++ trail = all at cut
  induction cut generalizing text with
  | nil =>
      obtain ⟨rfl, -⟩ := List.append_eq_nil_iff.mp hall
      exact .nil
  | @char c rest literals hc tail ih =>
      cases text with
      | nil =>
          rw [List.nil_append] at hall
          have hrest : ∀ d ∈ rest, Quote.ofChar? d = none :=
            fun d hd => htrail d (hall ▸ List.mem_cons_of_mem c hd)
          rw [← List.append_nil rest] at tail
          exact tail.of_append hrest
      | cons d text =>
          obtain ⟨rfl, hrest⟩ := List.cons.inj hall
          exact .char hc (ih hrest)
  | @literal quote source value rest literals enclosed tail ih =>
      have hquote : quote.char ∉ trail := by
        intro hmem
        have hnone := htrail _ hmem
        rw [Quote.ofChar?_char] at hnone
        cases hnone
      rcases List.append_eq_append_iff.mp hall with ⟨middle, -, rfl⟩ | ⟨middle, rfl, hmiddle⟩
      · exact absurd (List.mem_append_right _ List.mem_cons_self) hquote
      · cases middle with
        | nil =>
            rw [List.nil_append] at hmiddle
            exact absurd (hmiddle ▸ List.mem_cons_self) hquote
        | cons c middle =>
            obtain ⟨rfl, hrest⟩ := List.cons.inj hmiddle
            exact .literal enclosed (ih hrest.symm)

/-- Trimming a text leaves its literals alone. -/
theorem trim {text : Text} {literals : List Quotation} (cut : Cut text literals) :
    Cut text.trim literals := by
  obtain ⟨trail, htext, htrail⟩ := Text.exists_trim text
  rw [htext] at cut
  have hcut := cut.of_append_right fun c hc => (Inert.of_blank (htrail c hc)).no_quote
  exact hcut.of_append fun c hc =>
    (Inert.of_blank (Text.blanks_leadingBlanks text c hc)).no_quote

end Cut

/-! ## The literals that the scan closes -/

namespace Regions

/-- A literal is closed by the first quote that can close it, or is open at the end of the
template. -/
theorem exists_enclosed (quote : Quote) (text : Text) :
    (∃ source value rest, text = source ++ quote.char :: rest ∧ Enclosed quote source value) ∨
      ∀ seen, (scan (.quoted quote seen) text).regions = [] := by
  induction hlength : text.length using Nat.strongRecOn generalizing text with
  | ind length ih =>
      cases text with
      | nil => exact .inr fun seen => rfl
      | cons c rest =>
          by_cases hquote : c = quote.char
          · subst hquote
            exact .inl ⟨[], [], rest, rfl, .nil⟩
          · by_cases hslash : c = '\\'
            · subst hslash
              cases rest with
              | nil =>
                  refine .inr fun seen => ?_
                  have hnone : ¬ ('\\' = '\\' ∧ ([] : Text).head?.any Text.isEscapable = true) :=
                    fun h => Bool.false_ne_true h.2
                  rw [Scanner.scan_quoted_char hnone, if_neg hquote]
                  rfl
              | cons d rest =>
                  simp only [List.length_cons] at hlength
                  rcases ih rest.length (by omega) rest rfl with
                    ⟨source, value, after, rfl, enclosed⟩ | hopen
                  · refine .inl ⟨'\\' :: d :: source, ?_⟩
                    by_cases hd : Escapable d
                    · exact ⟨_, after, rfl, .escape hd enclosed⟩
                    · exact ⟨_, after, rfl, .kept hd enclosed⟩
                  · refine .inr fun seen => ?_
                    rw [scan_quoted_pair]
                    exact hopen _
            · simp only [List.length_cons] at hlength
              rcases ih rest.length (by omega) rest rfl with
                ⟨source, value, after, rfl, enclosed⟩ | hopen
              · exact .inl ⟨c :: source, _, after, rfl, .plain hquote hslash enclosed⟩
              · refine .inr fun seen => ?_
                rw [scan_quoted_plain hquote hslash]
                exact hopen _

/-- Every closed block can be cut into literals and other characters. -/
def Quotable (regions : Regions) : Prop :=
  ∀ interior, .closed interior ∈ regions.regions → ∃ literals, Cut interior literals

theorem Quotable.after {region : Region} {rest : Regions} (hrest : rest.Quotable)
    (hregion : ∀ interior, region = .closed interior → ∃ literals, Cut interior literals) :
    (rest.after region).Quotable := by
  intro interior hmem
  rcases List.mem_cons.mp hmem with heq | hmem
  · exact hregion interior heq.symm
  · exact hrest interior hmem

/-- A scan that starts outside or within a block that is cut so far closes such blocks alone. -/
theorem quotable_scan (text : Text) :
    (∀ seen, (scan (.outside seen) text).Quotable) ∧
      ∀ seen literals, Cut seen.reverse literals → (scan (.inside seen) text).Quotable := by
  induction hlength : text.length using Nat.strongRecOn generalizing text with
  | ind length ih =>
      have hshorter (rest : Text) (hrest : rest.length < length) := ih rest.length hrest rest rfl
      cases text with
      | nil =>
          constructor
          · intro seen interior hmem
            rw [scan] at hmem
            cases List.mem_singleton.mp hmem
          · intro seen literals _ interior hmem
            rw [scan] at hmem
            cases hmem
      | cons c rest =>
          rw [List.length_cons] at hlength
          obtain ⟨houtside, hinside⟩ := hshorter rest (by omega)
          constructor
          · intro seen
            by_cases hopen : c = '{' ∧ rest.head? = some '{'
            · obtain ⟨rfl, hhead⟩ := hopen
              obtain ⟨rest, rfl⟩ := List.head?_eq_some_iff.mp hhead
              rw [List.length_cons] at hlength
              rw [scan]
              exact ((hshorter rest (by omega)).2 [] [] .nil).after fun _ h => by cases h
            · rw [Scanner.scan_outside_cons hopen]
              exact houtside _
          · intro seen literals cut
            by_cases hthird : seen = [] ∧ c = '{'
            · obtain ⟨rfl, rfl⟩ := hthird
              rw [scan]
              exact (hinside [] [] .nil).after fun _ h => by cases h
            by_cases hopen : c = '{' ∧ rest.head? = some '{'
            · obtain ⟨rfl, hhead⟩ := hopen
              obtain ⟨rest, rfl⟩ := List.head?_eq_some_iff.mp hhead
              rw [List.length_cons] at hlength
              rw [Scanner.scan_inside_reopened fun hnil => hthird ⟨hnil, rfl⟩]
              exact ((hshorter rest (by omega)).2 [] [] .nil).after fun _ h => by cases h
            by_cases hclose : c = '}' ∧ rest.head? = some '}'
            · obtain ⟨rfl, hhead⟩ := hclose
              obtain ⟨rest, rfl⟩ := List.head?_eq_some_iff.mp hhead
              rw [List.length_cons] at hlength
              rw [scan]
              refine ((hshorter rest (by omega)).1 []).after fun interior h => ?_
              cases h
              exact ⟨literals, cut⟩
            rw [Scanner.scan_inside_char (fun hnil hc => hthird ⟨hnil, hc⟩) hopen hclose]
            cases hquote : Quote.ofChar? c with
            | none =>
                refine hinside (c :: seen) (literals ++ []) ?_
                rw [List.reverse_cons]
                exact cut.append (.char hquote .nil)
            | some quote =>
                obtain rfl := Quote.char_of_ofChar? hquote
                rcases exists_enclosed quote rest with ⟨source, value, after, rfl, enclosed⟩ | hnone
                · dsimp only
                  rw [scan_enclosed enclosed]
                  rw [List.length_append, List.length_cons] at hlength
                  refine (hshorter after (by omega)).2 _ (literals ++ [⟨quote, source⟩]) ?_
                  have hliteral : Cut (quote.char :: source ++ [quote.char]) [⟨quote, source⟩] :=
                    .literal enclosed .nil
                  simpa using cut.append hliteral
                · intro interior hmem
                  rw [hnone] at hmem
                  cases hmem

theorem exists_cut {template interior : Text}
    (hmem : .closed interior ∈ (ofTemplate template).regions) :
    ∃ literals, Cut interior literals :=
  (quotable_scan template).1 [] interior hmem

end Regions

/-! ## The literals that the reader finds -/

namespace Lexeme

/-- The literal that a token is, if it is one. -/
def quotation? : Lexeme → Option Quotation
  | .quoted quote inner => some ⟨quote, inner⟩
  | _ => none

def isUnclosed : Lexeme → Bool
  | .unclosed _ _ => true
  | _ => false

theorem ofChar?_of_isVariableChar {c : Char} (hc : isVariableChar c = true) :
    Quote.ofChar? c = none := by
  rw [Quote.ofChar?_eq_none]
  constructor
  · rintro rfl
    cases hc
  · rintro rfl
    cases hc

/-- A token that starts with no quote holds none. -/
theorem next_of_ofChar?_eq_none {c : Char} (hc : Quote.ofChar? c = none) (rest : Text) :
    (next c rest).1.quotation? = none ∧ (next c rest).1.isUnclosed = false ∧
      ∃ run, rest = run ++ (next c rest).2 ∧ ∀ d ∈ run, Quote.ofChar? d = none := by
  unfold next
  split
  next => exact ⟨rfl, rfl, [], rfl, fun _ hd => nomatch hd⟩
  next =>
    split
    next =>
      refine ⟨rfl, rfl, rest.takeWhile isVariableChar, ?_, fun d hd => ?_⟩
      · exact List.takeWhile_append_dropWhile.symm
      · exact ofChar?_of_isVariableChar (List.mem_takeWhile_imp hd)
    next =>
      rw [hc]
      refine ⟨rfl, rfl, rest.takeWhile isWordChar, ?_, fun d hd => ?_⟩
      · exact List.takeWhile_append_dropWhile.symm
      · exact (ofChar?_of_isWordChar (List.mem_takeWhile_imp hd)).2.2.1

theorem ofChar?_of_isSeparator {c : Char} (hc : isSeparator c = true) :
    Quote.ofChar? c = none :=
  (Inert.of_blank (Text.isBlank_of_separator (isSeparator_iff.mp hc))).no_quote

end Lexeme

/-- Whether a list of tokens ends in a literal that is never closed. -/
def Token.anyUnclosed (tokens : List Token) : Bool :=
  tokens.any fun token => token.lexeme.isUnclosed

/-- The literals among a list of tokens. -/
def Token.quotations (tokens : List Token) : List Quotation :=
  tokens.filterMap fun token => token.lexeme.quotation?

/-- The reader finds the literals of a text up to the first one that breaks a line, which is
never closed for it. -/
theorem Cut.tokens {text : Text} {literals : List Quotation} (cut : Cut text literals)
    (start : Nat) (spaced : Bool) :
    Token.quotations (Token.list start spaced text) =
        literals.takeWhile (fun literal => !literal.breaksLine) ∧
      Token.anyUnclosed (Token.list start spaced text) = literals.any Quotation.breaksLine := by
  fun_induction Token.list start spaced text generalizing literals with
  | case1 =>
      rw [cut.of_nil]
      exact ⟨rfl, rfl⟩
  | case2 start spaced c rest hc ih => exact ih (cut.of_cons (Lexeme.ofChar?_of_isSeparator hc))
  | case3 start spaced c rest hc width =>
      rename_i ih
      cases hquote : Quote.ofChar? c with
      | none =>
          obtain ⟨hnone, hclosed, run, hrun, hplain⟩ := Lexeme.next_of_ofChar?_eq_none hquote rest
          have hcut := cut.of_cons hquote
          rw [hrun] at hcut
          obtain ⟨hliterals, hunclosed⟩ := ih (hcut.of_append hplain)
          constructor
          · rw [← hliterals]
            exact List.filterMap_cons_none hnone
          · rw [← hunclosed, Token.anyUnclosed, List.any_cons, hclosed]
            rfl
      | some quote =>
          obtain rfl := Quote.char_of_ofChar? hquote
          obtain ⟨source, value, after, more, rfl, enclosed, rfl, hcut⟩ := cut.exists_of_quote
          have hnext := Lexeme.next_enclosed enclosed after
          cases hbreaks : source.breaksLine with
          | true =>
              rw [hbreaks, if_pos rfl] at hnext
              rw [hnext, Token.list]
              simp [Token.quotations, Token.anyUnclosed, Lexeme.quotation?, Lexeme.isUnclosed,
                Quotation.breaksLine, hbreaks]
          | false =>
              rw [hbreaks, if_neg Bool.false_ne_true] at hnext
              rw [hnext] at ih ⊢
              obtain ⟨hliterals, hunclosed⟩ := ih hcut
              constructor
              · rw [List.takeWhile_cons_of_pos (by simp [Quotation.breaksLine, hbreaks]),
                  ← hliterals]
                rfl
              · rw [List.any_cons, Quotation.breaksLine, hbreaks, ← hunclosed]
                rfl

/-! ## Refusals for a literal -/

namespace Token

/-- A result agrees with tokens on whether a literal among them is never closed: it is no success
if there is one, and no refusal for such a literal if there is none. -/
structure Tells {α : Type} (tokens : List Token) (result : Except ParseError α) : Prop where
  closed : ∀ a, result = .ok a → anyUnclosed tokens = false
  unclosed : ∀ error, result = .error error → error.cause = .unbalancedQuote →
    anyUnclosed tokens = true

variable {α β : Type} {token : Token} {tokens : List Token}

theorem Tells.of_error {cause : Cause} {span : Span} (hcause : cause ≠ .unbalancedQuote) :
    Tells tokens (.error ⟨cause, span⟩ : Except ParseError α) where
  closed := by
    intro a h
    cases h
  unclosed := by
    rintro error h hunbalanced
    cases h
    exact absurd hunbalanced hcause

theorem Tells.cons {result : Except ParseError α} (h : Tells tokens result)
    (htoken : token.lexeme.isUnclosed = false) : Tells (token :: tokens) result where
  closed := by
    intro a hok
    rw [anyUnclosed, List.any_cons, htoken, Bool.false_or]
    exact h.closed a hok
  unclosed := by
    intro error herror hcause
    rw [anyUnclosed, List.any_cons, htoken, Bool.false_or]
    exact h.unclosed error herror hcause

/-- A result that comes first and never refuses for a literal changes nothing. -/
theorem Tells.bind {first : Except ParseError β} {next : β → Except ParseError α}
    (hfirst : ∀ error, first = .error error → error.cause ≠ .unbalancedQuote)
    (hnext : ∀ b, first = .ok b → Tells tokens (next b)) : Tells tokens (first >>= next) where
  closed := by
    intro a hok
    obtain ⟨b, hb, h⟩ := Result.bind_eq_ok.mp hok
    exact (hnext b hb).closed a h
  unclosed := by
    intro error herror hcause
    rcases Result.bind_eq_error_iff.mp herror with h | ⟨b, hb, h⟩
    · exact absurd hcause (hfirst error h)
    · exact (hnext b hb).unclosed error h hcause

/-- Nor does one that comes after it. -/
theorem Tells.andThen {first : Except ParseError β} {next : β → Except ParseError α}
    (h : Tells tokens first)
    (hnext : ∀ b error, next b = .error error → error.cause ≠ .unbalancedQuote) :
    Tells tokens (first >>= next) where
  closed := by
    intro a hok
    obtain ⟨b, hb, -⟩ := Result.bind_eq_ok.mp hok
    exact h.closed b hb
  unclosed := by
    intro error herror hcause
    rcases Result.bind_eq_error_iff.mp herror with herror | ⟨b, -, herror⟩
    · exact h.unclosed error herror hcause
    · exact absurd hcause (hnext b error herror)

end Token

namespace Part

open Token (Tells)

theorem placed_cause {token : Token} {part : Part} {span : Span} {error : ParseError}
    (h : placed token part span = .error error) : error.cause ≠ .unbalancedQuote := by
  unfold placed at h
  split at h
  next => cases h
  next =>
    cases h
    exact Cause.noConfusion

theorem variableNamed_cause {name : Text} {span : Span} {error : ParseError}
    (h : variableNamed name span = .error error) : error.cause ≠ .unbalancedQuote := by
  unfold variableNamed at h
  split at h
  next =>
    cases h
    exact Cause.noConfusion
  next =>
    split at h
    next => cases h
    next =>
      cases h
      exact Cause.noConfusion

theorem tells_value (token : Token) : Tells [token] (value token) where
  closed := by
    intro operand h
    have reads := value_eq_ok.mp h
    cases hlexeme : token.lexeme with
    | unclosed quote rest =>
        rw [hlexeme] at reads
        cases reads
    | _ => rw [Token.anyUnclosed, List.any_cons, hlexeme]; rfl
  unclosed := by
    intro error h hcause
    unfold value at h
    split at h
    next => cases h
    next => exact absurd hcause (variableNamed_cause h)
    next =>
      cases h
      cases hcause
    next =>
      cases h
      cases hcause
    next hlexeme => rw [Token.anyUnclosed, List.any_cons, hlexeme]; rfl

/-- A part in front of the parts of the remaining tokens. -/
theorem tells_placed_cons {tokens : List Token} (h : Tells tokens (list tokens)) (token : Token)
    (part : Part) (span : Span) :
    Tells tokens (do
      let first ← placed token part span
      return first :: (← list tokens)) :=
  .bind (fun _ => placed_cause) fun _ _ => h.andThen fun _ _ herror => by cases herror

/-- Tokens are grouped only if none of them is a literal that is never closed, and a refusal for
such a literal means that there is one. -/
theorem tells_list (tokens : List Token) : Tells tokens (list tokens) := by
  fun_induction list tokens with
  | case1 =>
      refine ⟨fun _ _ => rfl, fun error h => ?_⟩
      cases h
  | case2 => exact .of_error Cause.noConfusion
  | case3 token rest quote inner hlexeme =>
      refine ⟨fun parts h => ?_, fun error _ _ => ?_⟩
      · cases h
      · rw [Token.anyUnclosed, List.any_cons, hlexeme]
        rfl
  | case4 token rest quote inner hlexeme ih =>
      refine (tells_placed_cons ih _ _ _).cons ?_
      rw [hlexeme]
      rfl
  | case5 token rest name hlexeme ih =>
      refine (Tells.bind (fun _ => variableNamed_cause) fun operand _ => ?_).cons ?_
      · exact tells_placed_cons ih _ _ _
      · rw [hlexeme]
        rfl
  | case6 => exact .of_error Cause.noConfusion
  | case7 token word hlexeme sign hsep hname last rest ih =>
      have hword : token.lexeme.isUnclosed = false := by
        rw [hlexeme]
        rfl
      refine Tells.cons (Tells.cons ?_ rfl) hword
      -- the value comes first; it is refused for a literal only if it is the unclosed one
      cases hvalue : value last with
      | error error =>
          refine ⟨fun parts h => ?_, fun other h hcause => ?_⟩
          · cases h
          · cases h
            have hlast := (tells_value last).unclosed _ hvalue hcause
            rw [Token.anyUnclosed, List.any_cons, List.any_nil, Bool.or_false] at hlast
            rw [Token.anyUnclosed, List.any_cons, hlast, Bool.true_or]
      | ok operand =>
          have hlast := (tells_value last).closed _ hvalue
          rw [Token.anyUnclosed, List.any_cons, List.any_nil, Bool.or_false] at hlast
          exact (tells_placed_cons ih _ _ _).cons hlast
  | case8 => exact .of_error Cause.noConfusion
  | case9 token word hlexeme rest hrest ih =>
      refine (tells_placed_cons ih _ _ _).cons ?_
      rw [hlexeme]
      rfl

end Part

theorem FunctionRef.ofWord_cause {word : Text} {cause : Cause}
    (h : FunctionRef.ofWord word = .error cause) : cause ≠ .unbalancedQuote := by
  unfold FunctionRef.ofWord at h
  split at h
  next =>
    split at h
    next => cases h
    next =>
      cases h
      exact Cause.noConfusion
  next =>
    dsimp only at h
    split at h
    next =>
      cases h
      exact Cause.noConfusion
    next =>
      split at h
      next => cases h
      next =>
        cases h
        exact Cause.noConfusion

namespace Call

theorem bindings_cause {position : Nat} {parts : List PlacedPart} {error : ParseError}
    (h : bindings position parts = .error error) : error.cause ≠ .unbalancedQuote := by
  fun_induction bindings position parts with
  | case1 => cases h
  | case2 position binding span rest ih =>
      rcases Result.bind_eq_error_iff.mp h with h | ⟨others, -, h⟩
      · exact ih h
      · cases h
  | case3 =>
      cases h
      exact Cause.noConfusion
  | case4 =>
      cases h
      exact Cause.noConfusion

theorem ofParts_cause {function : FunctionRef} {parts : List PlacedPart} {error : ParseError}
    (h : ofParts function parts = .error error) : error.cause ≠ .unbalancedQuote := by
  unfold ofParts at h
  split at h
  all_goals
    rcases Result.bind_eq_error_iff.mp h with h | ⟨named, -, h⟩
    · exact bindings_cause h
    · cases h

end Call

namespace Expression

theorem ofParts_cause {parts : List PlacedPart} {error : ParseError}
    (h : ofParts parts = .error error) : error.cause ≠ .unbalancedQuote := by
  unfold ofParts at h
  split at h
  next => cases h
  next =>
    cases h
    exact Cause.noConfusion
  next => cases h
  next =>
    cases h
    exact Cause.noConfusion
  next =>
    split at h
    next hcause =>
      cases h
      exact FunctionRef.ofWord_cause hcause
    next =>
      rcases Result.bind_eq_error_iff.mp h with h | ⟨call, -, h⟩
      · exact Call.ofParts_cause h
      · cases h

/-- Reading a text tells of its literals what its tokens tell. -/
theorem tells_readAt (start : Nat) (text : Text) :
    Token.Tells (Token.list start true text) (readAt start text) :=
  (Part.tells_list _).andThen fun _ _ => ofParts_cause

end Expression

/-- A block with a literal that breaks a line holds no expression. -/
theorem Cut.faulty {interior : Text} {literals : List Quotation} (cut : Cut interior literals)
    (hbreaks : literals.any Quotation.breaksLine = true) : Faulty interior := by
  intro expression derivation
  have hread : Expression.readAt 0 interior.trim = .ok expression :=
    Expression.readAt_eq_ok.mpr derivation
  have hclosed := (Expression.tells_readAt 0 interior.trim).closed _ hread
  rw [(cut.trim.tokens 0 true).2, hbreaks] at hclosed
  cases hclosed

namespace Template

/-- The scan of a template and the reader of expressions agree on the literals of every closed
block as long as none of them has a backslash before a line feed: the first literal that has one
is never closed for the reader, and the block is refused. A template is refused for an unbalanced
quote only where a closed block holds such a literal. Text between quotes alone is a literal,
with every backslash kept that stands before neither a quote nor a backslash, unless it is of
that kind. -/
theorem literals_agree (inlineVariables : Bool) (template : Text) :
    (∀ interior, .closed interior ∈ (Regions.ofTemplate template).regions →
      (∃ literals, Cut interior literals) ∧
      ∀ literals, Cut interior literals →
        (∀ start, Token.quotations (Token.list start true interior.trim) =
            literals.takeWhile (fun literal => !literal.breaksLine) ∧
          Token.anyUnclosed (Token.list start true interior.trim) =
            literals.any Quotation.breaksLine) ∧
        (literals.any Quotation.breaksLine = true → Faulty interior)) ∧
    (∀ refusal, read inlineVariables template = .error refusal →
      refusal.error.cause = .unbalancedQuote →
        ∃ interior, .closed interior ∈ (Regions.ofTemplate template).regions ∧
          ∀ literals, Cut interior literals → literals.any Quotation.breaksLine = true) ∧
    ∀ quote source value, Enclosed quote source value →
      Expression.read (quote.char :: source ++ [quote.char]) =
        if source.breaksLine then
          .error ⟨.unbalancedQuote, 0, Text.byteLength (quote.char :: source ++ [quote.char])⟩
        else .ok (some (.operand (.literal ⟨quote, value⟩))) := by
  refine ⟨fun interior hclosed => ⟨Regions.exists_cut hclosed, fun literals cut =>
    ⟨fun start => cut.trim.tokens start true, cut.faulty⟩⟩, ?_,
    fun _ _ _ => Expression.read_enclosed⟩
  intro refusal hread hcause
  obtain ⟨-, ⟨before, interior, after, hregions, hblock⟩ | ⟨rest, -, hrest⟩⟩ :=
    exists_of_read_eq_error hread
  · refine ⟨interior, hregions ▸ List.mem_append_right before List.mem_cons_self, ?_⟩
    intro literals cut
    rw [← (cut.trim.tokens _ true).2]
    exact (Expression.tells_readAt _ interior.trim).unclosed _ hblock hcause
  · -- what is open at the end is reported in words of its own
    rw [hrest, Unclosed.cause] at hcause
    split at hcause <;> cases hcause

/-- The template `{{'\` and a line feed and `'}}`: the block and its literal are closed, the
literal may stand between its quotes, and the template is refused for its quotes. -/
theorem literal_refused_at_line_feed : ∃ template interior,
    template = opener ++ interior ++ closer ∧ interior = ['\'', '\\', '\n', '\''] ∧
    .closed interior ∈ (Regions.ofTemplate template).regions ∧
    Cut interior [⟨.single, ['\\', '\n']⟩] ∧
    Enclosed .single ['\\', '\n'] ['\\', '\n'] ∧
    read true template = .error ⟨template, .unbalancedQuote, 2, 4⟩ ∧
    Cause.unbalancedQuote.message =
      "A value must have single quotes or double quotes on both sides".toList ∧
    Expression.read interior = .error ⟨.unbalancedQuote, 0, 4⟩ := by
  have enclosed : Enclosed .single ['\\', '\n'] ['\\', '\n'] :=
    .kept (mt isEscapable_iff.mpr (by decide)) .nil
  exact ⟨_, _, rfl, rfl, by decide +kernel, .literal enclosed .nil, enclosed, by decide +kernel,
    rfl, by decide +kernel⟩

/-- In `{{f 'a\q' x="}}"}}` both find two literals; in `{{f "\` and a line feed and `"}}` the
refusal is traced to a literal that breaks a line. -/
theorem literals_agree_mixed :
    ∃ (interior refused : Text) (literals : List Quotation) (refusal : Refusal),
      interior = ['f', ' ', '\'', 'a', '\\', 'q', '\'', ' ', 'x', '=', '"', '}', '}', '"'] ∧
      literals = [⟨.single, ['a', '\\', 'q']⟩, ⟨.double, ['}', '}']⟩] ∧
      .closed interior ∈ (Regions.ofTemplate (opener ++ interior ++ closer)).regions ∧
      Cut interior literals ∧ (∃ found, Cut interior found) ∧
      (∀ start, Token.quotations (Token.list start true interior.trim) =
          literals.takeWhile (fun literal => !literal.breaksLine) ∧
        Token.anyUnclosed (Token.list start true interior.trim) =
          literals.any Quotation.breaksLine) ∧
      refused = opener ++ ['f', ' ', '"', '\\', '\n', '"'] ++ closer ∧
      read true refused = .error refusal ∧ refusal.error.cause = .unbalancedQuote ∧
      (∃ inside, .closed inside ∈ (Regions.ofTemplate refused).regions ∧
        ∀ found, Cut inside found → found.any Quotation.breaksLine = true) ∧
      Enclosed .single ['a', '\\', 'q'] ['a', '\\', 'q'] ∧
      Expression.read ['\'', 'a', '\\', 'q', '\''] =
        if Text.breaksLine ['a', '\\', 'q'] then
          .error ⟨.unbalancedQuote, 0, Text.byteLength ['\'', 'a', '\\', 'q', '\'']⟩
        else .ok (some (.operand (.literal ⟨.single, ['a', '\\', 'q']⟩))) := by
  let interior : Text :=
    ['f', ' ', '\'', 'a', '\\', 'q', '\'', ' ', 'x', '=', '"', '}', '}', '"']
  let refused : Text := opener ++ ['f', ' ', '"', '\\', '\n', '"'] ++ closer
  have hsingle : Enclosed .single ['a', '\\', 'q'] ['a', '\\', 'q'] :=
    .plain (by decide) (by decide) (.kept (mt isEscapable_iff.mpr (by decide)) .nil)
  have hdouble : Enclosed .double ['}', '}'] ['}', '}'] :=
    .plain (by decide) (by decide) (.plain (by decide) (by decide) .nil)
  have hcut : Cut interior [⟨.single, ['a', '\\', 'q']⟩, ⟨.double, ['}', '}']⟩] :=
    .char rfl (.char rfl (.literal hsingle
      (.char rfl (.char rfl (.char rfl (.literal hdouble .nil))))))
  have hclosed : .closed interior ∈
      (Regions.ofTemplate (opener ++ interior ++ closer)).regions := by
    decide +kernel
  have hread : read true refused = .error ⟨refused, .unbalancedQuote, 4, 4⟩ := by
    decide +kernel
  obtain ⟨hliterals, -, hliteral⟩ := literals_agree true (opener ++ interior ++ closer)
  obtain ⟨-, hrefused, -⟩ := literals_agree true refused
  obtain ⟨hexists, htokens⟩ := hliterals _ hclosed
  exact ⟨interior, refused, _, _, rfl, rfl, hclosed, hcut, hexists, (htokens _ hcut).1, rfl,
    hread, rfl, hrefused _ hread rfl, hsingle, hliteral _ _ _ hsingle⟩

end Template

end Stencil
