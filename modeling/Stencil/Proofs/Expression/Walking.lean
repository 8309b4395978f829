import Stencil.Proofs.Expression.Walker

/-! # Walks over expressions come to what is read

Wherever a walk stands in an expression, what it has still to come to are the parts of the text that
is left. So it ends with the expression that is read, or with the same refusal, and it never asks
for a token or a stretch of text that does not exist.
-/

namespace Stencil

open Lexeme (isSeparator)

/-! ## Tokens behind a gap -/

theorem Lexeme.kind_eq_equals {lexeme : Lexeme} : lexeme.kind = .equals ↔ lexeme = .equals := by
  cases lexeme <;> simp [kind]

theorem Lexeme.utf8Size_of_isSeparator {c : Char} (hc : isSeparator c = true) : c.utf8Size = 1 := by
  simp only [isSeparator, Bool.or_eq_true, beq_iff_eq] at hc
  rcases hc with ((rfl | rfl) | rfl) | rfl <;> rfl

/-- A literal that is never closed takes all that follows. -/
theorem Lexeme.next_unclosed {c : Char} {rest more : Text} {quote : Quote}
    (h : (next c rest).1 = .unclosed quote more) : (next c rest).2 = [] ∧ c = quote.char := by
  unfold next at h ⊢
  split at h
  next => cases h
  next hequals =>
    rw [if_neg hequals]
    split at h
    next => cases h
    next hdollar =>
      rw [if_neg hdollar]
      split at h
      next other hquote =>
        split at h
        next => cases h
        next hclosing =>
          cases h
          exact ⟨rfl, Quote.char_of_ofChar? hquote⟩
      next => cases h

theorem Token.list_cons {c : Char} (hc : isSeparator c = false) (start : Nat) (spaced : Bool)
    (rest : Text) :
    list start spaced (c :: rest) =
      ⟨(Lexeme.next c rest).1, ⟨start, (Lexeme.next c rest).1.source.byteLength⟩, spaced⟩ ::
        list (start + (Lexeme.next c rest).1.source.byteLength) false (Lexeme.next c rest).2 := by
  rw [list, if_neg]
  rw [hc]
  exact Bool.false_ne_true

/-- The tokens of a text are those behind the gap that it starts with. -/
theorem Token.list_skip (start : Nat) (spaced : Bool) (text : Text) :
    list start spaced text =
      list (start + Text.byteLength (text.takeWhile isSeparator))
        (spaced || !(text.takeWhile isSeparator).isEmpty) (text.dropWhile isSeparator) := by
  induction text generalizing start spaced with
  | nil => simp [list]
  | cons c rest ih =>
      by_cases hc : isSeparator c = true
      · rw [List.takeWhile_cons_of_pos hc, List.dropWhile_cons_of_pos hc, list, if_pos hc, ih,
          Text.byteLength_cons, Lexeme.utf8Size_of_isSeparator hc, Nat.add_assoc]
        simp
      · simp [hc]

/-- What is read of a word that an equals sign follows. -/
theorem Part.list_sign (word : Text) (span sign : Span) (spaced behind : Bool)
    (tokens : List Token) :
    list (⟨.word word, span, spaced⟩ :: ⟨.equals, sign, behind⟩ :: tokens) =
      if isName word then
        match tokens with
        | [] => .error ⟨.missingValue, sign⟩
        | last :: rest => do
          let operand ← value last
          let first ← placed ⟨.word word, span, spaced⟩ (.binding ⟨word, operand⟩)
            (span.through last.span)
          return first :: (← list rest)
      else .error ⟨.invalidArgument word, span⟩ := by
  cases tokens with
  | nil => exact list.eq_def _
  | cons last rest => exact list.eq_def _

/-! ## Literals -/

/-- Between its quotes a text can be cut. -/
theorem Quote.cut_eq (quote : Quote) (inner : Text) :
    Walk.cut (quote.char :: inner ++ [quote.char]) quote.char.utf8Size
        (Text.byteLength (quote.char :: inner ++ [quote.char]) - quote.char.utf8Size) =
      .ok inner := by
  have hstop : Text.byteLength (quote.char :: inner ++ [quote.char]) - quote.char.utf8Size =
      Text.byteLength ([quote.char] ++ inner) := by
    rw [Text.byteLength_append]
    exact Nat.add_sub_cancel _ _
  exact Walk.cut_append rfl hstop [quote.char]

theorem Literal.ofSource_eq (quote : Quote) (inner : Text) :
    ofSource (Lexeme.quoted quote inner).source = .ok (.ofWritten quote inner) := by
  have hhead : (quote.char :: inner ++ [quote.char]).headD '\'' = quote.char := rfl
  rw [Lexeme.source, ofSource, hhead, Quote.cut_eq, Quote.ofChar?_char]
  rfl

namespace Expression

/-- What is gone over between a text in front and a text behind. -/
def groundOf (before content after : Text) : Ground :=
  ⟨before ++ content ++ after, before.byteLength, lexer.tokens 0 content⟩

/-- The span of a lexeme between the texts in front. -/
def spanOf (before done : Text) (lexeme : Lexeme) : Span :=
  ⟨before.byteLength + done.byteLength, lexeme.source.byteLength⟩

section

variable {c : Char} {rest : Text}

theorem lexer_gap (hc : isSeparator c = true) :
    lexer.kind c rest = .gap ∧ lexer.source c rest = (c :: rest).takeWhile isSeparator ∧
      lexer.after c rest = (c :: rest).dropWhile isSeparator := by
  rw [List.takeWhile_cons_of_pos hc, List.dropWhile_cons_of_pos hc]
  exact ⟨if_pos hc, if_pos hc, if_pos hc⟩

theorem lexer_lexeme (hc : isSeparator c = false) :
    lexer.kind c rest = (Lexeme.next c rest).1.kind ∧
      lexer.source c rest = (Lexeme.next c rest).1.source ∧
      lexer.after c rest = (Lexeme.next c rest).2 := by
  have hnot : ¬ isSeparator c = true := by
    rw [hc]
    exact Bool.false_ne_true
  exact ⟨if_neg hnot, if_neg hnot, if_neg hnot⟩

end

variable {before content after done rest : Text} {index : Nat} {c : Char}

theorem sourceAt_eq (stands : lexer.Stands content index done (c :: rest)) :
    (groundOf before content after).sourceAt index = .ok (lexer.source c rest) := by
  have htext : before ++ content ++ after =
      (before ++ done) ++ lexer.source c rest ++ (lexer.after c rest ++ after) := by
    rw [stands.text_eq_source]
    simp
  rw [Ground.sourceAt]
  dsimp only [groundOf]
  rw [Walk.token_eq stands.token_eq, htext]
  apply Walk.cut_append
  · simp
  · simp

theorem stretch_eq {next : Nat} {past more : Text} {d : Char}
    (first : lexer.Stands content index done (c :: rest))
    (last : lexer.Stands content next past (d :: more)) :
    (groundOf before content after).stretch index next =
      .ok ⟨before.byteLength + done.byteLength,
        before.byteLength + (past ++ lexer.source d more).byteLength -
          (before.byteLength + done.byteLength)⟩ := by
  rw [Ground.stretch]
  dsimp only [groundOf]
  rw [Walk.token_eq first.token_eq, Walk.token_eq last.token_eq]
  rfl

theorem stretch_self (hc : isSeparator c = false)
    (stands : lexer.Stands content index done (c :: rest)) :
    (groundOf before content after).stretch index index =
      .ok (spanOf before done (Lexeme.next c rest).1) := by
  rw [stretch_eq stands stands, (lexer_lexeme hc).2.1, Text.byteLength_append, ← Nat.add_assoc,
    Nat.add_sub_cancel_left]
  rfl

theorem refuse_eq {α : Type} (cause : Cause) (hc : isSeparator c = false)
    (stands : lexer.Stands content index done (c :: rest)) :
    ((groundOf before content after).refuse cause index : Except Halt α) =
      .error (.refused ⟨cause, spanOf before done (Lexeme.next c rest).1⟩) := by
  rw [Ground.refuse, stretch_self hc stands]
  rfl

theorem step_eq {walker : Walker}
    (stands : lexer.Stands content walker.cursor done (c :: rest)) :
    (groundOf before content after).step walker =
      (groundOf before content after).stepFrom walker (lexer.kind c rest) := by
  rw [Ground.step]
  dsimp only [groundOf]
  rw [Walk.token_eq stands.token_eq]
  rfl

theorem kind?_eq (stands : lexer.Stands content index done (c :: rest)) :
    Walk.kind? (groundOf before content after).tokens index = some (lexer.kind c rest) := by
  rw [Walk.kind?]
  dsimp only [groundOf]
  rw [stands.token_eq]
  rfl

theorem kind?_nil (stands : lexer.Stands content index done []) :
    Walk.kind? (groundOf before content after).tokens index = none := by
  rw [Walk.kind?]
  dsimp only [groundOf]
  rw [stands.getElem?_eq, Lexer.tokens]
  rfl

theorem variableAt_eq {name : Text} (hc : isSeparator c = false)
    (stands : lexer.Stands content index done (c :: rest))
    (hvar : (Lexeme.next c rest).1 = .var name) :
    (groundOf before content after).variableAt index =
      (Part.variableNamed name (spanOf before done (.var name))).mapError .refused := by
  have hcut : Walk.cut (Lexeme.var name).source (Char.utf8Size '$')
      (Lexeme.var name).source.byteLength = .ok name := by
    have happend : Walk.cut (['$'] ++ name ++ []) (Char.utf8Size '$')
        (Text.byteLength (['$'] ++ name)) = .ok name :=
      Walk.cut_append rfl rfl []
    rw [List.append_nil] at happend
    exact happend
  rw [Ground.variableAt, sourceAt_eq stands, (lexer_lexeme hc).2.1, stretch_self hc stands, hvar]
  dsimp only [bind, Except.bind]
  rw [hcut]

/-- The last token is one that is never closed. -/
theorem unexpected_eq {α : Type} {quote : Quote} {more : Text} (hc : isSeparator c = false)
    (stands : lexer.Stands content index done (c :: rest))
    (hunclosed : (Lexeme.next c rest).1 = .unclosed quote more) :
    ((groundOf before content after).unexpected index : Except Halt α) =
      .error (.refused ⟨.unbalancedQuote, spanOf before done (Lexeme.next c rest).1⟩) := by
  have hbehind := stands.next
  rw [(lexer_lexeme hc).2.2, (Lexeme.next_unclosed hunclosed).1] at hbehind
  have hlength : (groundOf before content after).tokens.length - 1 = index := by
    have hle := hbehind.index_le
    have hnot := mt hbehind.lt_length_iff.mp (not_not_intro rfl)
    dsimp only [groundOf]
    omega
  have hhead : (Lexeme.next c rest).1.source.head?.bind Quote.ofChar? = some quote := by
    rw [hunclosed, Lexeme.source, List.head?_cons, Option.bind_some, Quote.ofChar?_char]
  rw [Ground.unexpected, sourceAt_eq stands, (lexer_lexeme hc).2.1]
  dsimp only [bind, Except.bind]
  rw [hhead]
  dsimp only
  rw [hlength, stretch_self hc stands]

/-! ## Gaps -/

theorem takeWhile_gap (start : Nat) {text : Text}
    (hhead : ∀ c ∈ text.head?, isSeparator c = false) :
    ((lexer.tokens start text).takeWhile fun token => token.kind == .gap) = [] := by
  cases text with
  | nil => simp [Lexer.tokens]
  | cons c rest =>
      have hkind : lexer.kind c rest ≠ .gap := by
        rw [(lexer_lexeme (hhead c rfl)).1]
        cases (Lexeme.next c rest).1 <;> exact Lexeme.Kind.noConfusion
      rw [Lexer.tokens, List.takeWhile_cons_of_neg]
      simpa using hkind

theorem length_lt_of_dropWhile {text more : Text} (h : text.dropWhile isSeparator = c :: more) :
    more.length < text.length := by
  have hle := (List.dropWhile_suffix (l := text) isSeparator).length_le
  rw [h] at hle
  exact hle

theorem head?_dropWhile_separator (text : Text) :
    ∀ c ∈ (text.dropWhile isSeparator).head?, isSeparator c = false := by
  intro c hc
  have hfirst := List.head?_dropWhile_not isSeparator text
  rw [hc] at hfirst
  exact hfirst

/-- A gap is one token, so there is no more than one to be skipped. -/
theorem stands_skip (stands : lexer.Stands content index done rest) :
    lexer.Stands content ((groundOf before content after).skip index)
      (done ++ rest.takeWhile isSeparator) (rest.dropWhile isSeparator) := by
  have hskip : (groundOf before content after).skip index = index +
      ((lexer.tokens done.byteLength rest).takeWhile fun token => token.kind == .gap).length := by
    rw [← stands.drop_eq]
    rfl
  rw [hskip]
  cases rest with
  | nil =>
      rw [Lexer.tokens, List.takeWhile_nil, List.takeWhile_nil, List.append_nil]
      exact stands
  | cons c rest =>
      by_cases hc : isSeparator c = true
      · obtain ⟨hkind, hsource, hafter⟩ := @lexer_gap c rest hc
        rw [Lexer.tokens, hkind, hafter, List.takeWhile_cons_of_pos rfl,
          takeWhile_gap _ (head?_dropWhile_separator (c :: rest)), ← hsource, ← hafter]
        exact stands.next
      · have hhead : ∀ d ∈ (c :: rest).head?, isSeparator d = false := by
          rintro d ⟨⟩
          exact eq_false_of_ne_true hc
        rw [takeWhile_gap _ hhead, List.takeWhile_cons_of_neg hc, List.dropWhile_cons_of_neg hc,
          List.append_nil]
        exact stands

/-! ## Arguments -/

/-- What has to be read at some place: the tokens of the rest of the text. -/
def tokensFrom (before done : Text) (spaced : Bool) (rest : Text) : List Token :=
  Token.list (before.byteLength + done.byteLength) spaced rest

theorem tokensFrom_nil (before done : Text) (spaced : Bool) :
    tokensFrom before done spaced [] = [] := by
  rw [tokensFrom, Token.list]

theorem tokensFrom_cons (before done : Text) (spaced : Bool) (hc : isSeparator c = false)
    (rest : Text) :
    tokensFrom before done spaced (c :: rest) =
      ⟨(Lexeme.next c rest).1, spanOf before done (Lexeme.next c rest).1, spaced⟩ ::
        tokensFrom before (done ++ lexer.source c rest) false (lexer.after c rest) := by
  rw [tokensFrom, Token.list_cons hc, (lexer_lexeme hc).2.1, (lexer_lexeme hc).2.2, tokensFrom,
    Text.byteLength_append, ← Nat.add_assoc]
  rfl

/-- Where a walk stands behind a gap, the tokens are the same. -/
theorem exists_behind_gap (before after : Text) (spaced : Bool)
    (stands : lexer.Stands content index done rest) :
    ∃ past spaced', lexer.Stands content ((groundOf before content after).skip index) past
        (rest.dropWhile isSeparator) ∧
      tokensFrom before done spaced rest =
        tokensFrom before past spaced' (rest.dropWhile isSeparator) := by
  refine ⟨_, spaced || !(rest.takeWhile isSeparator).isEmpty, stands_skip stands, ?_⟩
  rw [tokensFrom, Token.list_skip, tokensFrom, Text.byteLength_append, ← Nat.add_assoc]

/-- The value of a named argument is read at its token. -/
theorem valueAt_eq (sign : Nat) (spaced : Bool) (hc : isSeparator c = false)
    (stands : lexer.Stands content index done (c :: rest)) :
    (groundOf before content after).valueAt sign index =
      (Part.value
        ⟨(Lexeme.next c rest).1, spanOf before done (Lexeme.next c rest).1, spaced⟩).mapError
          .refused := by
  rw [Ground.valueAt, kind?_eq stands, (lexer_lexeme hc).1]
  cases hlexeme : (Lexeme.next c rest).1 with
  | equals => exact (refuse_eq .bareValue hc stands).trans (by rw [hlexeme]; rfl)
  | quoted quote inner =>
      dsimp only [Lexeme.kind]
      rw [sourceAt_eq stands, (lexer_lexeme hc).2.1, hlexeme]
      dsimp only [bind, Except.bind]
      rw [Literal.ofSource_eq]
      rfl
  | unclosed quote more => exact (unexpected_eq hc stands hlexeme).trans (by rw [hlexeme]; rfl)
  | var name => exact variableAt_eq hc stands hlexeme
  | word word => exact (refuse_eq .bareValue hc stands).trans (by rw [hlexeme]; rfl)

theorem valueAt_nil {sign : Nat} {past more : Text} {d : Char}
    (hd : isSeparator d = false) (first : lexer.Stands content sign past (d :: more))
    (stands : lexer.Stands content index done []) :
    (groundOf before content after).valueAt sign index =
      .error (.refused ⟨.missingValue, spanOf before past (Lexeme.next d more).1⟩) := by
  rw [Ground.valueAt, kind?_nil stands]
  exact refuse_eq .missingValue hd first

/-! ## Steps -/

/-- A step of a walk leads to a refusal of the text, or past something that it takes, and what it
takes comes first among the parts of what was left. -/
def Keeps (before content after : Text) (walker : Walker) (done rest : Text) : Prop :=
  (∃ error, (groundOf before content after).step walker = .error (.refused error) ∧
    Part.list (tokensFrom before done walker.separated rest) = .error error) ∨
  ∃ next past left taken, (groundOf before content after).step walker = .ok next ∧
    lexer.Stands content next.cursor past left ∧ left.length < rest.length ∧
    next.parts = walker.parts ++ taken ∧
    Part.list (tokensFrom before done walker.separated rest) =
      (Part.list (tokensFrom before past next.separated left)).map (taken ++ ·)

section

variable {walker : Walker} {part : Part}

/-- A part is taken where the walk stands, unless no gap stands before it. -/
theorem keeps_take {lexeme : Lexeme} {place span : Span} {next : Nat} {past left : Text}
    (hstep : (groundOf before content after).step walker =
      (groundOf before content after).take walker part next)
    (hspan : (groundOf before content after).stretch walker.cursor (next - 1) = .ok span)
    (stands : lexer.Stands content next past left) (hlength : left.length < rest.length)
    (hlist : Part.list (tokensFrom before done walker.separated rest) = (do
      let first ← Part.placed ⟨lexeme, place, walker.separated⟩ part span
      return first :: (← Part.list (tokensFrom before past false left)))) :
    Keeps before content after walker done rest := by
  rw [Part.placed] at hlist
  rw [Ground.take, hspan] at hstep
  dsimp only [bind, Except.bind] at hstep
  cases hseparated : walker.separated with
  | false =>
      rw [hseparated] at hstep hlist
      refine .inl ⟨_, hstep, ?_⟩
      rw [hseparated, hlist]
      rfl
  | true =>
      rw [hseparated] at hstep hlist
      refine .inr ⟨_, past, left, [⟨part, span⟩], hstep, stands, hlength, rfl, ?_⟩
      rw [hseparated, hlist]
      dsimp only
      cases Part.list (tokensFrom before past false left) <;> rfl

theorem keeps_gap (hc : isSeparator c = true)
    (stands : lexer.Stands content walker.cursor done (c :: rest)) :
    Keeps before content after walker done (c :: rest) := by
  obtain ⟨hkind, hsource, hafter⟩ := @lexer_gap c rest hc
  refine .inr ⟨{ walker with separated := true, cursor := walker.cursor + 1 }, _, _, [], ?_,
    stands.next, Nat.lt_succ_of_le (lexer.length_after_le c rest), (List.append_nil _).symm, ?_⟩
  · rw [step_eq stands, hkind]
    rfl
  · have htokens : tokensFrom before done walker.separated (c :: rest) =
        tokensFrom before (done ++ lexer.source c rest) true (lexer.after c rest) := by
      rw [tokensFrom, Token.list_skip, ← hsource, ← hafter, tokensFrom, Text.byteLength_append,
        ← Nat.add_assoc, hsource, List.takeWhile_cons_of_pos hc, List.isEmpty_cons, Bool.not_false,
        Bool.or_true]
    rw [htokens]
    cases Part.list (tokensFrom before (done ++ lexer.source c rest) true (lexer.after c rest)) <;>
      rfl

/-- A lone token that is a part of its own. -/
theorem keeps_lone (hc : isSeparator c = false)
    (stands : lexer.Stands content walker.cursor done (c :: rest))
    (hstep : (groundOf before content after).step walker =
      (groundOf before content after).take walker part (walker.cursor + 1))
    (hlist : Part.list (tokensFrom before done walker.separated (c :: rest)) = (do
      let first ← Part.placed
        ⟨(Lexeme.next c rest).1, spanOf before done (Lexeme.next c rest).1, walker.separated⟩ part
        (spanOf before done (Lexeme.next c rest).1)
      return first :: (← Part.list
        (tokensFrom before (done ++ lexer.source c rest) false (lexer.after c rest))))) :
    Keeps before content after walker done (c :: rest) :=
  keeps_take hstep (stretch_self hc stands) stands.next
    (Nat.lt_succ_of_le (lexer.length_after_le c rest)) hlist

/-- Where a sign, a literal or a variable stands. -/
theorem keeps_lexeme (hc : isSeparator c = false)
    (stands : lexer.Stands content walker.cursor done (c :: rest))
    (hword : ∀ word, (Lexeme.next c rest).1 ≠ .word word) :
    Keeps before content after walker done (c :: rest) := by
  have hstep := @step_eq before content after done rest c walker stands
  have htokens := tokensFrom_cons before done walker.separated hc rest
  rw [(lexer_lexeme hc).1] at hstep
  cases hlexeme : (Lexeme.next c rest).1 with
  | equals =>
      rw [hlexeme] at hstep htokens
      refine .inl ⟨_, hstep.trans (refuse_eq _ hc stands), ?_⟩
      rw [htokens, Part.list, hlexeme]
  | unclosed quote more =>
      rw [hlexeme] at hstep htokens
      refine .inl ⟨_, hstep.trans (unexpected_eq hc stands hlexeme), ?_⟩
      rw [htokens, Part.list, hlexeme]
  | quoted quote inner =>
      rw [hlexeme] at hstep htokens
      have htake : (groundOf before content after).step walker =
          (groundOf before content after).take walker
            (.operand (.literal (.ofWritten quote inner))) (walker.cursor + 1) := by
        rw [hstep, Lexeme.kind, Ground.stepFrom, sourceAt_eq stands, (lexer_lexeme hc).2.1, hlexeme]
        dsimp only [bind, Except.bind]
        rw [Literal.ofSource_eq]
      refine keeps_lone hc stands htake ?_
      rw [htokens, Part.list, hlexeme]
  | var name =>
      rw [hlexeme] at hstep htokens
      rw [Lexeme.kind, Ground.stepFrom, variableAt_eq hc stands hlexeme] at hstep
      cases hvariable : Part.variableNamed name (spanOf before done (.var name)) with
      | error error =>
          rw [hvariable] at hstep
          refine .inl ⟨error, hstep, ?_⟩
          rw [htokens, Part.list]
          dsimp only
          rw [hvariable]
          rfl
      | ok operand =>
          rw [hvariable] at hstep
          refine keeps_lone hc stands hstep ?_
          rw [htokens, Part.list, hlexeme]
          dsimp only
          rw [hvariable]
          rfl
  | word word => exact absurd hlexeme (hword word)

/-- A word that no equals sign follows is a part of its own. -/
theorem keeps_word_alone {word : Text} (hc : isSeparator c = false)
    (stands : lexer.Stands content walker.cursor done (c :: rest))
    (hlexeme : (Lexeme.next c rest).1 = .word word)
    (hkind : Walk.kind? (groundOf before content after).tokens
      ((groundOf before content after).skip (walker.cursor + 1)) ≠ some .equals)
    (hbehind : ∀ token ∈ (tokensFrom before (done ++ lexer.source c rest) false
      (lexer.after c rest)).head?, token.lexeme ≠ .equals) :
    Keeps before content after walker done (c :: rest) := by
  have htake : (groundOf before content after).step walker =
      (groundOf before content after).take walker (.word word) (walker.cursor + 1) := by
    rw [step_eq stands, (lexer_lexeme hc).1, hlexeme, Lexeme.kind, Ground.stepFrom, Ground.takeWord]
    dsimp only
    rw [if_neg hkind, sourceAt_eq stands, (lexer_lexeme hc).2.1, hlexeme]
    rfl
  refine keeps_lone hc stands htake ?_
  rw [tokensFrom_cons before done walker.separated hc rest, hlexeme]
  generalize tokensFrom before (done ++ lexer.source c rest) false (lexer.after c rest) = tokens
    at hbehind ⊢
  rw [Part.list.eq_def]
  cases tokens with
  | nil => rfl
  | cons token tokens =>
      obtain ⟨lexeme, span, spaced⟩ := token
      cases lexeme with
      | equals => exact absurd rfl (hbehind _ rfl)
      | _ => rfl

/-- A named argument goes as far as its value, which is what stands behind the equals sign. -/
theorem keeps_value {word past more : Text} {d : Char}
    (stands : lexer.Stands content walker.cursor done (c :: rest)) (hd : isSeparator d = false)
    (sign : lexer.Stands content index past (d :: more)) (hshorter : more.length < rest.length)
    (hstep : (groundOf before content after).step walker = (do
      let operand ← (groundOf before content after).valueAt index
        ((groundOf before content after).skip (index + 1))
      (groundOf before content after).take walker (.binding ⟨word, operand⟩)
        ((groundOf before content after).skip (index + 1) + 1)))
    (hlist : Part.list (tokensFrom before done walker.separated (c :: rest)) =
      match tokensFrom before (past ++ lexer.source d more) false (lexer.after d more) with
      | [] => .error ⟨.missingValue, spanOf before past (Lexeme.next d more).1⟩
      | last :: behind => do
        let operand ← Part.value last
        let first ← Part.placed ⟨.word word, spanOf before done (.word word), walker.separated⟩
          (.binding ⟨word, operand⟩) ((spanOf before done (.word word)).through last.span)
        return first :: (← Part.list behind)) :
    Keeps before content after walker done (c :: rest) := by
  obtain ⟨front, spaced, last, htokens⟩ := exists_behind_gap before after false sign.next
  rw [htokens] at hlist
  cases hvalue : (lexer.after d more).dropWhile isSeparator with
  | nil =>
      rw [hvalue] at last hlist
      rw [valueAt_nil hd sign last] at hstep
      rw [tokensFrom_nil] at hlist
      exact .inl ⟨_, hstep, hlist⟩
  | cons e behind =>
      have he : isSeparator e = false := head?_dropWhile_separator _ e (by rw [hvalue]; rfl)
      rw [hvalue] at last hlist
      rw [valueAt_eq _ spaced he last] at hstep
      rw [tokensFrom_cons before front spaced he behind] at hlist
      dsimp only at hlist
      cases hoperand : Part.value
          ⟨(Lexeme.next e behind).1, spanOf before front (Lexeme.next e behind).1, spaced⟩ with
      | error error =>
          rw [hoperand] at hstep hlist
          exact .inl ⟨error, hstep, hlist⟩
      | ok operand =>
          rw [hoperand] at hstep hlist
          refine keeps_take hstep ?_ last.next ?_ hlist
          · rw [Nat.add_sub_cancel, stretch_eq stands last, (lexer_lexeme he).2.1,
              Text.byteLength_append, ← Nat.add_assoc]
            rfl
          · have hlast := lexer.length_after_le e behind
            have hmiddle := lexer.length_after_le d more
            have hshort := length_lt_of_dropWhile hvalue
            rw [List.length_cons]
            omega

/-- A word with an equals sign behind it names an argument. -/
theorem keeps_word_sign {word past more : Text} {d : Char} {spaced : Bool}
    (hc : isSeparator c = false) (stands : lexer.Stands content walker.cursor done (c :: rest))
    (hlexeme : (Lexeme.next c rest).1 = .word word)
    (sign : lexer.Stands content ((groundOf before content after).skip (walker.cursor + 1)) past
      (d :: more))
    (htokens : tokensFrom before (done ++ lexer.source c rest) false (lexer.after c rest) =
      tokensFrom before past spaced (d :: more))
    (hd : isSeparator d = false) (hsign : (Lexeme.next d more).1 = .equals)
    (hshorter : more.length < rest.length) :
    Keeps before content after walker done (c :: rest) := by
  have hstep : (groundOf before content after).step walker = (do
      let bound ← (groundOf before content after).bindingAt walker.cursor
        ((groundOf before content after).skip (walker.cursor + 1))
      (groundOf before content after).take walker (.binding bound.1) bound.2) := by
    rw [step_eq stands, (lexer_lexeme hc).1, hlexeme, Lexeme.kind, Ground.stepFrom, Ground.takeWord]
    dsimp only
    rw [if_pos]
    rw [kind?_eq sign, (lexer_lexeme hd).1, hsign]
    rfl
  rw [Ground.bindingAt, sourceAt_eq stands, (lexer_lexeme hc).2.1, hlexeme] at hstep
  dsimp only [bind, Except.bind, Lexeme.source] at hstep
  have hlist := Part.list_sign word (spanOf before done (.word word)) (spanOf before past .equals)
    walker.separated spaced
    (tokensFrom before (past ++ lexer.source d more) false (lexer.after d more))
  rw [← hsign, ← tokensFrom_cons before past spaced hd more, ← htokens, ← hlexeme,
    ← tokensFrom_cons before done walker.separated hc rest, hlexeme] at hlist
  by_cases hname : isName word = true
  · rw [if_pos hname] at hstep hlist
    refine keeps_value stands hd sign hshorter (hstep.trans ?_) hlist
    cases (groundOf before content after).valueAt _ _ <;> rfl
  · rw [if_neg hname] at hstep hlist
    refine .inl ⟨_, hstep.trans ?_, hlist⟩
    rw [refuse_eq _ hc stands, hlexeme]

/-- A step keeps what a walk comes to. -/
theorem keeps (stands : lexer.Stands content walker.cursor done (c :: rest)) :
    Keeps before content after walker done (c :: rest) := by
  by_cases hc : isSeparator c = true
  · exact keeps_gap hc stands
  · have hc : isSeparator c = false := eq_false_of_ne_true hc
    cases hlexeme : (Lexeme.next c rest).1 with
    | word word =>
        obtain ⟨past, spaced, sign, htokens⟩ := exists_behind_gap before after false stands.next
        cases hbehind : (lexer.after c rest).dropWhile isSeparator with
        | nil =>
            rw [hbehind] at sign htokens
            apply keeps_word_alone hc stands hlexeme
            · rw [kind?_nil sign]
              exact (Option.some_ne_none _).symm
            · rw [htokens, tokensFrom_nil]
              rintro token ⟨⟩
        | cons d more =>
            have hd : isSeparator d = false := head?_dropWhile_separator _ d (by rw [hbehind]; rfl)
            have hshorter := length_lt_of_dropWhile hbehind
            rw [hbehind] at sign htokens
            by_cases hsign : (Lexeme.next d more).1 = .equals
            · exact keeps_word_sign hc stands hlexeme sign htokens hd hsign
                (Nat.lt_of_lt_of_le hshorter (lexer.length_after_le c rest))
            · apply keeps_word_alone hc stands hlexeme
              · rw [kind?_eq sign, (lexer_lexeme hd).1]
                exact fun h => hsign (Lexeme.kind_eq_equals.mp (Option.some.inj h))
              · rw [htokens, tokensFrom_cons _ _ _ hd]
                rintro token ⟨⟩
                exact hsign
    | _ => exact keeps_lexeme hc stands fun word hword => by simp [hlexeme] at hword

end

/-- What a walk has still to come to, behind the parts that it has taken already. -/
theorem run_eq {walker : Walker} (stands : lexer.Stands content walker.cursor done rest) :
    (groundOf before content after).run walker =
      ((Part.list (tokensFrom before done walker.separated rest)).mapError Halt.refused).map
        (walker.parts ++ ·) := by
  induction hlength : rest.length using Nat.strongRecOn generalizing walker done rest with
  | ind length ih =>
      cases rest with
      | nil =>
          rw [Ground.run_of_not_lt (mt stands.lt_length_iff.mp (not_not_intro rfl)), tokensFrom_nil,
            Part.list]
          exact congrArg Except.ok (List.append_nil _).symm
      | cons c rest =>
          have hlt := stands.lt_length_iff.mpr (List.cons_ne_nil c rest)
          rcases @keeps before content after _ _ _ _ stands with
            ⟨error, hstep, hlist⟩ |
            ⟨next, past, left, taken, hstep, stands, hshorter, hparts, hlist⟩
          · rw [Ground.run_of_step_error hlt hstep, hlist]
            rfl
          · rw [Ground.run_of_step_ok hlt hstep, ih left.length (hlength ▸ hshorter) stands rfl,
              hlist, hparts]
            cases Part.list (tokensFrom before past next.separated left) with
            | error error => rfl
            | ok parts => exact congrArg Except.ok (List.append_assoc _ _ _)

theorem groundAt_eq (before content after : Text) {start stop : Nat}
    (hstart : start = before.byteLength) (hstop : stop = (before ++ content).byteLength) :
    groundAt (before ++ content ++ after) start stop = .ok (groundOf before content after) := by
  rw [groundAt, Walk.cut_append hstart hstop, hstart]
  rfl

/-- A walk over a stretch of a template comes to the expression that is read there, or to the same
refusal. -/
theorem walkAt_eq (before content after : Text) {start stop : Nat}
    (hstart : start = before.byteLength) (hstop : stop = (before ++ content).byteLength) :
    walkAt (before ++ content ++ after) start stop =
      (readAt start content).mapError Halt.refused := by
  have hground := groundAt_eq before content after hstart hstop
  have hrun : (groundOf before content after).run .initial =
      ((Part.list (tokensFrom before [] true content)).mapError Halt.refused).map ([] ++ ·) :=
    run_eq (lexer.stands_start content)
  have htokens : tokensFrom before [] true content = Token.list start true content := by
    rw [tokensFrom, hstart]
    rfl
  rw [walkAt, hground, readAt, ← htokens]
  dsimp only [bind, Except.bind]
  rw [hrun]
  cases Part.list (tokensFrom before [] true content) <;> rfl

/-! ## What a walk asks for exists -/

theorem exists_stands_of_reaches {walker : Walker}
    (reaches : (groundOf before content after).Reaches walker) :
    ∃ done rest, lexer.Stands content walker.cursor done rest := by
  induction reaches with
  | initial => exact ⟨[], content, lexer.stands_start content⟩
  | step reaches hlt hstep ih =>
      obtain ⟨done, rest, stands⟩ := ih
      obtain ⟨c, rest, rfl⟩ := stands.exists_cons hlt
      rcases @keeps before content after _ _ _ _ stands with
        ⟨error, herror, -⟩ | ⟨next, past, left, taken, hnext, stands, -⟩
      · rw [hstep] at herror
        cases herror
      · rw [hstep] at hnext
        cases hnext
        exact ⟨past, left, stands⟩

/-- A quoted token has both its quotes, and what stands between them makes a literal. -/
theorem sourceAt_quoted {quote : Quote}
    (hkind : Walk.kind? (lexer.tokens 0 content) index = some (.quoted quote)) :
    ∃ inner, (groundOf before content after).sourceAt index =
        .ok (quote.char :: inner ++ [quote.char]) ∧
      Literal.ofSource (quote.char :: inner ++ [quote.char]) = .ok (.ofWritten quote inner) := by
  obtain ⟨token, htoken, hkind⟩ := Option.map_eq_some_iff.mp hkind
  obtain ⟨done, c, rest, stands, rfl⟩ := lexer.exists_stands_of_getElem? htoken
  dsimp only at hkind
  by_cases hc : isSeparator c = true
  · rw [(lexer_gap hc).1] at hkind
    cases hkind
  · obtain ⟨hlexeme, hsource, -⟩ := @lexer_lexeme c rest (eq_false_of_ne_true hc)
    rw [hlexeme] at hkind
    cases hnext : (Lexeme.next c rest).1 with
    | quoted other inner =>
        rw [hnext] at hkind hsource
        cases hkind
        refine ⟨inner, ?_, Literal.ofSource_eq quote inner⟩
        rw [sourceAt_eq stands, hsource]
        rfl
    | _ =>
        rw [hnext] at hkind
        cases hkind

/-- All that a walk over some ground asks for exists. -/
structure Ground.Sound (ground : Ground) : Prop where
  /-- The template can be cut at both ends of each token. -/
  cuts : ∀ token ∈ ground.tokens, token.start < token.stop ∧
    ground.template.Cuts (ground.offset + token.start) (ground.offset + token.stop)
  /-- Every literal is given with both its quotes. -/
  quoted : ∀ index quote, Walk.kind? ground.tokens index = some (.quoted quote) → ∃ inner,
    ground.sourceAt index = .ok (quote.char :: inner ++ [quote.char]) ∧
      Literal.ofSource (quote.char :: inner ++ [quote.char]) = .ok (.ofWritten quote inner)
  cursor_le : ∀ walker, ground.Reaches walker → walker.cursor ≤ ground.tokens.length
  lt_step : ∀ walker next, ground.Reaches walker → ground.step walker = .ok next →
    walker.cursor < next.cursor
  step_ne_broken : ∀ walker, ground.Reaches walker → walker.cursor < ground.tokens.length →
    ground.step walker ≠ .error .broken

theorem sound_groundOf (before content after : Text) : (groundOf before content after).Sound where
  cuts token htoken := by
    obtain ⟨hlt, cuts⟩ := lexer.cuts_of_mem_tokens htoken
    exact ⟨hlt, cuts.moved before after⟩
  quoted _ _ hkind := sourceAt_quoted hkind
  cursor_le walker reaches := by
    obtain ⟨done, rest, stands⟩ := exists_stands_of_reaches reaches
    exact stands.index_le
  lt_step _ _ _ hstep := Ground.lt_step hstep
  step_ne_broken walker reaches hlt := by
    intro hbroken
    obtain ⟨done, rest, stands⟩ := exists_stands_of_reaches reaches
    obtain ⟨c, rest, rfl⟩ := stands.exists_cons hlt
    rcases @keeps before content after _ _ _ _ stands with
      ⟨error, hstep, -⟩ | ⟨next, past, left, taken, hstep, -⟩
    · rw [hbroken] at hstep
      cases hstep
    · rw [hbroken] at hstep
      cases hstep

/-- A walk can go over every stretch of a template, and comes there to what is read. -/
theorem exists_sound_of_slice {template content : Text} {start stop : Nat}
    (h : template.slice? start stop = some content) :
    ∃ ground, groundAt template start stop = .ok ground ∧ ground.Sound ∧
      walkAt template start stop = (readAt start content).mapError Halt.refused := by
  obtain ⟨hle, before, after, rfl, hspan⟩ := Text.slice?_eq_some_iff.mp h
  obtain ⟨hstart, hlength⟩ := Span.mk.inj hspan
  have hstop : stop = (before ++ content).byteLength := by
    rw [Text.byteLength_append, ← hstart, ← hlength, Nat.add_sub_cancel' hle]
  exact ⟨groundOf before content after, groundAt_eq before content after hstart hstop,
    sound_groundOf before content after, walkAt_eq before content after hstart hstop⟩

end Expression

end Stencil
