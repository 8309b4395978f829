import Stencil.Proofs.Expression.Tokens
import Stencil.Proofs.Result

/-! # Parts of an expression

Between the text and the grammar stand its parts: words, arguments and named
arguments, with gaps between them. The tokens of a text group into a list of parts
exactly when the text is such a row, and then into the parts of the row. Where the
parts stand plays no role for which parts they are.
-/

namespace Stencil

open Grammar

namespace Grammar

/-- The text of one part. -/
inductive Unit : Text → Part → Prop where
  | word {word : Text} (hne : word ≠ []) (hword : ∀ c ∈ word, Lexeme.isWordChar c = true) :
      Unit word (.word word)
  | operand {text : Text} {operand : Operand} (argument : Argument text operand) :
      Unit text (.operand operand)
  | binding {text : Text} {binding : Binding} (named : Named text binding) :
      Unit text (.binding binding)

/-- A text made up of parts and gaps. The flag says whether a part may start here,
which needs a gap after the part before. -/
inductive Row : Bool → Text → List Part → Prop where
  | nil {spaced : Bool} : Row spaced [] []
  | gap {spaced : Bool} {c : Char} {rest : Text} {parts : List Part} (hc : Separator c)
      (row : Row true rest parts) : Row spaced (c :: rest) parts
  | part {text rest : Text} {part : Part} {parts : List Part} (unit : Unit text part)
      (row : Row false rest parts) : Row true (text ++ rest) (part :: parts)

namespace Row

theorem gap_append {gap rest : Text} {parts : List Part} {spaced : Bool} (hgap : Gap gap)
    (row : Row (spaced || !gap.isEmpty) rest parts) : Row spaced (gap ++ rest) parts := by
  induction gap generalizing spaced with
  | nil =>
      rw [List.isEmpty_nil, Bool.not_true, Bool.or_false] at row
      exact row
  | cons c gap ih =>
      obtain ⟨hc, hrest⟩ := List.forall_mem_cons.mp hgap
      refine .gap hc (ih hrest ?_)
      simpa only [List.isEmpty_cons, Bool.not_false, Bool.or_true, Bool.true_or] using row

/-- A row starts with a gap and its first part. -/
theorem exists_of_cons {spaced : Bool} {text : Text} {part : Part} {parts : List Part}
    (row : Row spaced text (part :: parts)) :
    ∃ gap unit rest, text = gap ++ (unit ++ rest) ∧ Gap gap ∧ (spaced || !gap.isEmpty) = true ∧
      Unit unit part ∧ Row false rest parts := by
  generalize hparts : part :: parts = all at row
  induction row with
  | nil => cases hparts
  | gap hc _ ih =>
      obtain ⟨gap, unit, rest, rfl, hgap, -, hunit, hrest⟩ := ih hparts
      exact ⟨_ :: gap, unit, rest, rfl, .cons hc hgap, Bool.or_true _, hunit, hrest⟩
  | part unit row _ =>
      cases hparts
      exact ⟨[], _, _, rfl, .nil, rfl, unit, row⟩

theorem gap_of_nil {spaced : Bool} {text : Text} (row : Row spaced text []) : Gap text := by
  generalize hparts : [] = all at row
  induction row with
  | nil => exact .nil
  | gap hc _ ih => exact .cons hc (ih hparts)
  | part _ _ _ => cases hparts

/-- Where no part may start, the text is over or goes on with a separator. -/
theorem separator_of_head {rest : Text} {parts : List Part} (row : Row false rest parts) :
    ∀ c ∈ rest.head?, Separator c := by
  intro c hc
  cases row with
  | nil => cases hc
  | gap hd _ =>
      cases hc
      exact hd

theorem isVariableChar_of_head {rest : Text} {parts : List Part} (row : Row false rest parts) :
    ∀ c ∈ rest.head?, Lexeme.isVariableChar c = false := by
  intro c hc
  rw [Lexeme.isVariableChar, isSeparator_iff.mpr (row.separator_of_head c hc)]
  rfl

theorem isWordChar_of_head {rest : Text} {parts : List Part} (row : Row false rest parts) :
    ∀ c ∈ rest.head?, Lexeme.isWordChar c = false := by
  intro c hc
  rw [Lexeme.isWordChar, row.isVariableChar_of_head c hc]
  rfl

end Row

instance (c : Char) : Decidable (NameChar c) :=
  inferInstanceAs (Decidable (_ ∨ _ ∨ _ ∨ _))

theorem NameChar.isWordChar {c : Char} (hc : NameChar c) : Lexeme.isWordChar c = true := by
  -- none of the characters that end a word is a name character
  have hne (d : Char) (hd : ¬ NameChar d) : c ≠ d := fun heq => hd (heq ▸ hc)
  simp [Lexeme.isWordChar, Lexeme.isVariableChar, Lexeme.isSeparator, hne ' ' (by decide),
    hne '\t' (by decide), hne '\r' (by decide), hne '\n' (by decide), hne '=' (by decide),
    hne '\'' (by decide), hne '"' (by decide), hne '$' (by decide)]

theorem Name.isWordChar {name : Text} (hname : Name name) :
    ∀ c ∈ name, Lexeme.isWordChar c = true :=
  fun c hc => (hname.2 c hc).isWordChar

theorem Name.isVariableChar {name : Text} (hname : Name name) :
    ∀ c ∈ name, Lexeme.isVariableChar c = true :=
  fun c hc => (Bool.and_eq_true_iff.mp (hname.isWordChar c hc)).1

end Grammar

namespace Part

/-! ## From tokens to parts -/

theorem variableNamed_eq_ok {name : Text} {span : Span} {operand : Operand} :
    variableNamed name span = .ok operand ↔ Name name ∧ operand = .var name := by
  unfold variableNamed
  split
  next hempty =>
    constructor
    · intro h
      cases h
    · rintro ⟨hname, -⟩
      exact absurd (List.isEmpty_iff.mp hempty) hname.1
  next =>
    split
    next hname =>
      rw [← isName_iff, Except.ok.injEq]
      exact ⟨fun h => ⟨hname, h.symm⟩, fun h => h.2.symm⟩
    next hname =>
      constructor
      · intro h
        cases h
      · rintro ⟨h, -⟩
        exact absurd (isName_iff.mpr h) hname

theorem placed_eq_ok {token : Token} {part : Part} {span : Span} {result : PlacedPart} :
    placed token part span = .ok result ↔ token.spaced = true ∧ result = ⟨part, span⟩ := by
  unfold placed
  split
  next hspaced =>
    rw [Except.ok.injEq]
    exact ⟨fun h => ⟨hspaced, h.symm⟩, fun h => h.2.symm⟩
  next hspaced =>
    constructor
    · intro h
      cases h
    · rintro ⟨h, -⟩
      exact absurd h hspaced

/-- A part is placed in front of the parts of the remaining tokens. -/
theorem placed_cons_eq_ok {token : Token} {part : Part} {span : Span} {tokens : List Token}
    {parts : List PlacedPart} :
    (do
      let first ← placed token part span
      return first :: (← list tokens)) = .ok parts ↔
      token.spaced = true ∧
        ∃ others, list tokens = .ok others ∧ parts = ⟨part, span⟩ :: others := by
  rw [Result.bind_eq_ok]
  constructor
  · rintro ⟨first, hfirst, h⟩
    obtain ⟨others, hothers, h⟩ := Result.bind_eq_ok.mp h
    obtain ⟨htrue, rfl⟩ := placed_eq_ok.mp hfirst
    cases h
    exact ⟨htrue, others, hothers, rfl⟩
  · rintro ⟨htrue, others, hothers, rfl⟩
    have hfirst := placed_eq_ok.mpr ⟨htrue, @rfl _ (⟨part, span⟩ : PlacedPart)⟩
    exact ⟨_, hfirst, Result.bind_eq_ok.mpr ⟨others, hothers, rfl⟩⟩

/-- The tokens that are arguments on their own. -/
inductive Reads : Lexeme → Operand → Prop where
  | quoted (quote : Quote) (source : Text) :
      Reads (.quoted quote source) (.literal (.ofWritten quote source))
  | var {name : Text} (hname : Name name) : Reads (.var name) (.var name)

theorem value_eq_ok {token : Token} {operand : Operand} :
    value token = .ok operand ↔ Reads token.lexeme operand := by
  unfold value
  split
  next quote source hlexeme =>
    rw [hlexeme]
    constructor
    · intro h
      cases h
      exact .quoted quote source
    · intro reads
      cases reads
      rfl
  next name hlexeme =>
    rw [hlexeme, variableNamed_eq_ok]
    constructor
    · rintro ⟨hname, rfl⟩
      exact .var hname
    · intro reads
      cases reads with
      | var hname => exact ⟨hname, rfl⟩
  all_goals
    next hlexeme =>
      rw [hlexeme]
      constructor
      · intro h
        cases h
      · intro reads
        cases reads

/-- The source of an argument's token is an argument of the grammar. -/
theorem Reads.argument {lexeme : Lexeme} {operand : Operand} {c : Char} {rest after : Text}
    (reads : Reads lexeme operand) (hnext : Lexeme.next c rest = (lexeme, after)) :
    Argument lexeme.source operand := by
  cases reads with
  | quoted quote source => exact .literal (Lexeme.inside_of_next hnext)
  | var hname => exact .var hname

/-- What a list of tokens groups into is a row of parts in the text they come from. -/
theorem row_of_list {tokens : List Token} {parts : List PlacedPart} (h : list tokens = .ok parts)
    {start : Nat} {spaced : Bool} {text : Text} (htokens : Token.list start spaced text = tokens) :
    Row spaced text (parts.map PlacedPart.part) := by
  fun_induction list tokens generalizing parts start spaced text with
  | case1 =>
      cases h
      rw [← List.append_nil text]
      exact .gap_append (Token.gap_of_list_eq_nil htokens) .nil
  | case2 => cases h
  | case3 => cases h
  | case4 token rest quote inner hlexeme ih =>
      obtain ⟨gap, c, more, after, stop, rfl, hgap, -, hnext, hspaced, hrest⟩ :=
        Token.exists_of_list_eq_cons htokens
      obtain ⟨htrue, others, hothers, rfl⟩ := placed_cons_eq_ok.mp h
      rw [hlexeme] at hnext ⊢
      refine .gap_append hgap ?_
      rw [← hspaced, htrue]
      exact .part (.operand ((Reads.quoted quote inner).argument hnext)) (ih hothers hrest)
  | case5 token rest name hlexeme ih =>
      obtain ⟨gap, c, more, after, stop, rfl, hgap, -, hnext, hspaced, hrest⟩ :=
        Token.exists_of_list_eq_cons htokens
      obtain ⟨operand, hoperand, h⟩ := Result.bind_eq_ok.mp h
      obtain ⟨hname, rfl⟩ := variableNamed_eq_ok.mp hoperand
      obtain ⟨htrue, others, hothers, rfl⟩ := placed_cons_eq_ok.mp h
      rw [hlexeme]
      refine .gap_append hgap ?_
      rw [← hspaced, htrue]
      exact .part (.operand (.var hname)) (ih hothers hrest)
  | case6 => cases h
  | case7 token word hlexeme sign hsep hname last rest ih =>
      -- a word, an equals sign and a value, each after a gap of its own
      obtain ⟨gap, c, more, after, stop, rfl, hgap, -, -, hspaced, hrest⟩ :=
        Token.exists_of_list_eq_cons htokens
      obtain ⟨before, _, _, after, stop, rfl, hbefore, -, -, -, hrest⟩ :=
        Token.exists_of_list_eq_cons hrest
      obtain ⟨behind, _, _, after, stop, rfl, hbehind, -, hnext, -, hrest⟩ :=
        Token.exists_of_list_eq_cons hrest
      obtain ⟨operand, hoperand, h⟩ := Result.bind_eq_ok.mp h
      obtain ⟨htrue, others, hothers, rfl⟩ := placed_cons_eq_ok.mp h
      have named := Named.intro (isName_iff.mp hname) hbefore hbehind
        ((value_eq_ok.mp hoperand).argument hnext)
      have row := Row.part (.binding named) (ih hothers hrest)
      rw [hlexeme]
      refine .gap_append hgap ?_
      rw [← hspaced, htrue]
      simp only [List.append_assoc, List.cons_append] at row
      exact row
  | case8 => cases h
  | case9 token word hlexeme rest hrest ih =>
      obtain ⟨gap, c, more, after, stop, rfl, hgap, hc, hnext, hspaced, hrest⟩ :=
        Token.exists_of_list_eq_cons htokens
      obtain ⟨htrue, others, hothers, rfl⟩ := placed_cons_eq_ok.mp h
      rw [hlexeme] at hnext ⊢
      obtain ⟨hne, hword⟩ := Lexeme.isWordChar_of_next hc hnext
      refine .gap_append hgap ?_
      rw [← hspaced, htrue]
      exact .part (.word hne hword) (ih hothers hrest)

/-! ## From rows to parts -/

section

variable {tokens : List Token} {parts : List PlacedPart}

theorem list_operand (h : list tokens = .ok parts) {lexeme : Lexeme} {operand : Operand}
    (reads : Reads lexeme operand) (span : Span) :
    list (⟨lexeme, span, true⟩ :: tokens) = .ok (⟨.operand operand, span⟩ :: parts) := by
  rw [list.eq_def]
  cases reads with
  | quoted quote source => exact placed_cons_eq_ok.mpr ⟨rfl, parts, h, rfl⟩
  | var hname =>
      have hvariable : variableNamed _ span = .ok _ := variableNamed_eq_ok.mpr ⟨hname, rfl⟩
      exact Result.bind_eq_ok.mpr ⟨_, hvariable, placed_cons_eq_ok.mpr ⟨rfl, parts, h, rfl⟩⟩

/-- A word with no equals sign behind it is a part of its own. -/
theorem list_word (h : list tokens = .ok parts)
    (htokens : ∀ token ∈ tokens.head?, token.lexeme ≠ .equals) (word : Text) (span : Span) :
    list (⟨.word word, span, true⟩ :: tokens) = .ok (⟨.word word, span⟩ :: parts) := by
  have hbind : (do
      let first ← placed ⟨.word word, span, true⟩ (.word word) span
      return first :: (← list tokens)) = .ok (⟨.word word, span⟩ :: parts) :=
    placed_cons_eq_ok.mpr ⟨rfl, parts, h, rfl⟩
  rw [list.eq_def]
  cases tokens with
  | nil => exact hbind
  | cons token rest =>
      obtain ⟨lexeme, place, spaced⟩ := token
      cases lexeme with
      | equals => exact absurd rfl (htokens _ rfl)
      | _ => exact hbind

/-- A name, an equals sign and a value are one part. -/
theorem list_binding (h : list tokens = .ok parts) {name : Text} (hname : Name name)
    {last : Token} {operand : Operand} (hvalue : value last = .ok operand) (span sign : Span)
    (spaced : Bool) :
    list (⟨.word name, span, true⟩ :: ⟨.equals, sign, spaced⟩ :: last :: tokens) =
      .ok (⟨.binding ⟨name, operand⟩, span.through last.span⟩ :: parts) := by
  rw [list.eq_def]
  exact (if_pos (isName_iff.mpr hname)).trans (Result.bind_eq_ok.mpr
    ⟨operand, hvalue, placed_cons_eq_ok.mpr ⟨rfl, parts, h, rfl⟩⟩)

end

end Part

namespace Grammar

/-- An argument is one token, which starts with neither a separator nor an equals sign;
a literal takes its closing quote with it, a variable must not be able to go on. -/
theorem Argument.exists_next {text : Text} {operand : Operand} (argument : Argument text operand)
    (rest : Text) (hrest : ∀ c ∈ rest.head?, Lexeme.isVariableChar c = false) :
    ∃ c more lexeme, text ++ rest = c :: more ∧ c ≠ '=' ∧ Lexeme.isSeparator c = false ∧
      Lexeme.next c more = (lexeme, rest) ∧ Part.Reads lexeme operand := by
  cases argument with
  | @literal quote source value inside =>
      have hvalue : Literal.ofWritten quote source = ⟨quote, value⟩ := by
        rw [Literal.ofWritten, Lexeme.unescape_of_inside inside]
      refine ⟨quote.char, source ++ quote.char :: rest, _, ?_, ?_, ?_,
        Lexeme.next_literal inside rest, hvalue ▸ .quoted quote source⟩
      · rw [List.append_assoc, List.cons_append, List.singleton_append]
      · cases quote <;> decide
      · cases quote <;> decide
  | @var name hname =>
      exact ⟨'$', name ++ rest, _, rfl, by decide, by decide,
        Lexeme.next_var hname.isVariableChar hrest, .var hname⟩

/-- A word is one token when it cannot go on. -/
theorem Unit.exists_next_word {word : Text} (hne : word ≠ [])
    (hword : ∀ c ∈ word, Lexeme.isWordChar c = true) (rest : Text)
    (hrest : ∀ c ∈ rest.head?, Lexeme.isWordChar c = false) :
    ∃ c more, word ++ rest = c :: more ∧ c ≠ '=' ∧ Lexeme.isSeparator c = false ∧
      Lexeme.next c more = (.word word, rest) := by
  obtain ⟨c, tail, rfl⟩ := List.exists_cons_of_ne_nil hne
  obtain ⟨hc, htail⟩ := List.forall_mem_cons.mp hword
  obtain ⟨hequals, -, -, hsep⟩ := Lexeme.ofChar?_of_isWordChar hc
  exact ⟨c, tail ++ rest, rfl, hequals, hsep, Lexeme.next_word hc htail hrest⟩

theorem isWordChar_of_head_gap {gap : Text} (hgap : Gap gap) (rest : Text) :
    ∀ c ∈ (gap ++ '=' :: rest).head?, Lexeme.isWordChar c = false := by
  intro c hc
  cases gap with
  | nil =>
      cases hc
      rfl
  | cons d gap =>
      cases hc
      rw [Lexeme.isWordChar, Lexeme.isVariableChar,
        isSeparator_iff.mpr (hgap c List.mem_cons_self)]
      rfl

/-- No part starts with a separator or an equals sign. -/
theorem Unit.exists_cons {text : Text} {part : Part} (unit : Unit text part) :
    ∃ c more, text = c :: more ∧ c ≠ '=' ∧ Lexeme.isSeparator c = false := by
  cases unit with
  | word hne hword =>
      obtain ⟨c, more, heq, hequals, hsep, -⟩ :=
        exists_next_word hne hword [] (fun c hc => nomatch hc)
      rw [List.append_nil] at heq
      exact ⟨c, more, heq, hequals, hsep⟩
  | operand argument =>
      obtain ⟨c, more, _, heq, hequals, hsep, -, -⟩ :=
        argument.exists_next [] (fun c hc => nomatch hc)
      rw [List.append_nil] at heq
      exact ⟨c, more, heq, hequals, hsep⟩
  | binding named =>
      obtain ⟨hname, -, -, -⟩ := named
      obtain ⟨c, tail, rfl⟩ := List.exists_cons_of_ne_nil hname.1
      obtain ⟨hequals, -, -, hsep⟩ :=
        Lexeme.ofChar?_of_isWordChar (hname.isWordChar c List.mem_cons_self)
      exact ⟨c, _, rfl, hequals, hsep⟩

/-- The tokens of a row never start with an equals sign, so a word before it is a part of
its own. -/
theorem Row.head_ne_equals {spaced : Bool} {text : Text} {parts : List Part}
    (row : Row spaced text parts) (start : Nat) :
    ∀ token ∈ (Token.list start spaced text).head?, token.lexeme ≠ .equals := by
  induction row generalizing start with
  | nil =>
      rw [Token.list]
      intro token htoken
      cases htoken
  | gap hc _ ih =>
      rw [Token.list, if_pos (isSeparator_iff.mpr hc)]
      exact ih _
  | @part text rest part parts unit _ _ =>
      obtain ⟨c, more, rfl, hequals, hsep⟩ := unit.exists_cons
      have hnext : Lexeme.next c (more ++ rest) = (_, _) := rfl
      obtain ⟨span, stop, hlist⟩ := Token.list_gap_append .nil hsep hnext start true
      rw [List.nil_append, ← List.cons_append] at hlist
      rw [hlist]
      intro token htoken
      cases htoken
      exact Lexeme.next_ne_equals hequals _

/-- The tokens of a row group into its parts. -/
theorem Row.exists_list {spaced : Bool} {text : Text} {parts : List Part}
    (row : Row spaced text parts) (start : Nat) :
    ∃ placed, Part.list (Token.list start spaced text) = .ok placed ∧
      placed.map PlacedPart.part = parts := by
  induction row generalizing start with
  | nil =>
      rw [Token.list]
      exact ⟨[], rfl, rfl⟩
  | gap hc _ ih =>
      rw [Token.list, if_pos (isSeparator_iff.mpr hc)]
      exact ih _
  | @part text rest part parts unit row ih =>
      cases unit with
      | word hne hword =>
          obtain ⟨c, more, heq, -, hsep, hnext⟩ :=
            Unit.exists_next_word hne hword rest row.isWordChar_of_head
          obtain ⟨span, stop, hlist⟩ := Token.list_gap_append .nil hsep hnext start true
          obtain ⟨placed, hplaced, rfl⟩ := ih stop
          refine ⟨⟨.word text, span⟩ :: placed, ?_, rfl⟩
          rw [heq, ← List.nil_append (c :: more), hlist]
          exact Part.list_word hplaced (row.head_ne_equals stop) _ span
      | @operand operand argument =>
          obtain ⟨c, more, lexeme, heq, -, hsep, hnext, reads⟩ :=
            argument.exists_next rest row.isVariableChar_of_head
          obtain ⟨span, stop, hlist⟩ := Token.list_gap_append .nil hsep hnext start true
          obtain ⟨placed, hplaced, rfl⟩ := ih stop
          refine ⟨⟨.operand operand, span⟩ :: placed, ?_, rfl⟩
          rw [heq, ← List.nil_append (c :: more), hlist]
          exact Part.list_operand hplaced reads span
      | binding named =>
          obtain @⟨name, before, after, value, operand, hname, hbefore, hafter, argument⟩ := named
          -- the three tokens of a named argument, the value's read with the rest behind it
          obtain ⟨d, tail, lexeme, hvalue, -, hd, hlast, reads⟩ :=
            argument.exists_next rest row.isVariableChar_of_head
          obtain ⟨c, more, heq, -, hsep, hnext⟩ := Unit.exists_next_word hname.1 hname.isWordChar _
            (isWordChar_of_head_gap hbefore (after ++ (value ++ rest)))
          obtain ⟨span, stop, hlist⟩ := Token.list_gap_append .nil hsep hnext start true
          obtain ⟨sign, middle, hsign⟩ := Token.list_gap_append hbefore (by decide)
            (Lexeme.next_equals (after ++ (value ++ rest))) stop false
          obtain ⟨place, finish, hfinish⟩ := Token.list_gap_append hafter hd hlast middle false
          obtain ⟨placed, hplaced, rfl⟩ := ih finish
          refine ⟨⟨.binding ⟨name, operand⟩, span.through place⟩ :: placed, ?_, rfl⟩
          have htext : name ++ before ++ '=' :: after ++ value ++ rest = c :: more := by
            simp only [List.append_assoc, List.cons_append, ← heq]
          rw [htext, ← List.nil_append (c :: more), hlist, hsign, hvalue, hfinish]
          exact Part.list_binding hplaced hname (Part.value_eq_ok.mpr reads) span sign _

end Grammar

end Stencil
