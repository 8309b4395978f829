import Stencil.Expression.Reader

/-! # The grammar of expressions

What may stand between double braces, as derivations over the written text. Each
rule says which text it covers and what that text denotes. The rules mention no
tokens and no order of reading, so they are a description of the language and not
of its reader.
-/

namespace Stencil.Grammar

/-- The characters that may stand between the units of an expression. -/
def Separator (c : Char) : Prop := c = ' ' ∨ c = '\t' ∨ c = '\r' ∨ c = '\n'

/-- A possibly empty text of separators. -/
def Gap (text : Text) : Prop := ∀ c ∈ text, Separator c

/-- The ASCII letters, the digits and the underscore. -/
def NameChar (c : Char) : Prop :=
  ('A' ≤ c ∧ c ≤ 'Z') ∨ ('a' ≤ c ∧ c ≤ 'z') ∨ ('0' ≤ c ∧ c ≤ '9') ∨ c = '_'

/-- A non-empty text of name characters. -/
def Name (text : Text) : Prop := text ≠ [] ∧ ∀ c ∈ text, NameChar c

/-- The characters that an escape stands for. -/
def Escapable (c : Char) : Prop := c = '\'' ∨ c = '"' ∨ c = '\\'

/-- The inside of a literal and the text it stands for. A backslash takes the next
character with it; it disappears before a quote or a backslash and stays otherwise. -/
inductive Inside (quote : Quote) : Text → Text → Prop where
  | nil : Inside quote [] []
  | plain {c : Char} {source value : Text} (hquote : c ≠ quote.char) (hslash : c ≠ '\\')
      (rest : Inside quote source value) : Inside quote (c :: source) (c :: value)
  | escape {c : Char} {source value : Text} (hc : Escapable c)
      (rest : Inside quote source value) : Inside quote ('\\' :: c :: source) (c :: value)
  | kept {c : Char} {source value : Text} (hc : ¬ Escapable c) (hline : c ≠ '\n')
      (rest : Inside quote source value) :
      Inside quote ('\\' :: c :: source) ('\\' :: c :: value)

/-- An argument: a literal or a variable. -/
inductive Argument : Text → Operand → Prop where
  | literal {quote : Quote} {source value : Text} (inside : Inside quote source value) :
      Argument (quote.char :: source ++ [quote.char]) (.literal ⟨quote, value⟩)
  | var {name : Text} (hname : Name name) : Argument ('$' :: name) (.var name)

/-- A function's name, with or without its plugin. -/
inductive Function : Text → FunctionRef → Prop where
  | plain {name : Text} (hname : Name name) : Function name ⟨none, name⟩
  | qualified {plugin name : Text} (hplugin : Name plugin) (hname : Name name) :
      Function (plugin ++ '.' :: name) ⟨some plugin, name⟩

/-- A named argument, with gaps allowed around its equals sign. -/
inductive Named : Text → Binding → Prop where
  | intro {name before after value : Text} {operand : Operand} (hname : Name name)
      (hbefore : Gap before) (hafter : Gap after) (argument : Argument value operand) :
      Named (name ++ before ++ '=' :: after ++ value) ⟨name, operand⟩

/-- The unnamed argument of a call, if there is one, with the gap before it. -/
inductive Input : Text → Option Operand → Prop where
  | none : Input [] none
  | some {gap value : Text} {operand : Operand} (hgap : Gap gap) (hne : gap ≠ [])
      (argument : Argument value operand) : Input (gap ++ value) (some operand)

/-- The named arguments of a call in written order, each after a gap. -/
inductive Tail : Text → List Binding → Prop where
  | nil : Tail [] []
  | cons {gap text rest : Text} {binding : Binding} {bindings : List Binding} (hgap : Gap gap)
      (hne : gap ≠ []) (named : Named text binding) (tail : Tail rest bindings) :
      Tail (gap ++ text ++ rest) (binding :: bindings)

/-- The expressions, each with the text that denotes it; a gap denotes none. -/
inductive Derives : Text → Option Expression → Prop where
  | blank {gap : Text} (hgap : Gap gap) : Derives gap none
  | operand {before value after : Text} {operand : Operand} (hbefore : Gap before)
      (argument : Argument value operand) (hafter : Gap after) :
      Derives (before ++ value ++ after) (some (.operand operand))
  | call {before name first rest after : Text} {function : FunctionRef}
      {input : Option Operand} {named : List Binding} (hbefore : Gap before)
      (head : Function name function) (positional : Input first input)
      (tail : Tail rest named) (hafter : Gap after) :
      Derives (before ++ name ++ first ++ rest ++ after) (some (.call ⟨function, input, named⟩))

/-! ## The character classes of the reader -/

theorem isSeparator_iff {c : Char} : Lexeme.isSeparator c = true ↔ Separator c := by
  simp only [Lexeme.isSeparator, Separator, Bool.or_eq_true, beq_iff_eq, or_assoc]

theorem isNameChar_iff {c : Char} : isNameChar c = true ↔ NameChar c := by
  have hchar : isNameChar c = (c.isUpper || c.isLower || c.isDigit || c == '_') := rfl
  have hupper : c.isUpper = decide ('A' ≤ c ∧ c ≤ 'Z') := rfl
  have hlower : c.isLower = (decide ('a' ≤ c) && decide (c ≤ 'z')) := rfl
  have hdigit : c.isDigit = (decide ('0' ≤ c) && decide (c ≤ '9')) := rfl
  rw [hchar, hupper, hlower, hdigit]
  simp only [NameChar, Bool.or_eq_true, Bool.and_eq_true, decide_eq_true_eq, beq_iff_eq, or_assoc]

theorem isName_iff {text : Text} : isName text = true ↔ Name text := by
  simp only [isName, Name, Bool.and_eq_true, Bool.not_eq_true', List.isEmpty_eq_false_iff,
    List.all_eq_true, isNameChar_iff, ne_eq]

theorem isEscapable_iff {c : Char} : Text.isEscapable c = true ↔ Escapable c := by
  simp only [Text.isEscapable, Escapable, Bool.or_eq_true, beq_iff_eq, or_assoc]

theorem Gap.nil : Gap [] := by
  intro c hc
  cases hc

theorem Gap.cons {c : Char} {rest : Text} (hc : Separator c) (hrest : Gap rest) :
    Gap (c :: rest) :=
  List.forall_mem_cons.mpr ⟨hc, hrest⟩

theorem Gap.append {first second : Text} (hfirst : Gap first) (hsecond : Gap second) :
    Gap (first ++ second) :=
  List.forall_mem_append.mpr ⟨hfirst, hsecond⟩

/-- An argument by itself is an expression. -/
theorem Argument.derives {text : Text} {operand : Operand} (argument : Argument text operand) :
    Derives text (some (.operand operand)) := by
  have derivation := Derives.operand .nil argument .nil
  rw [List.nil_append, List.append_nil] at derivation
  exact derivation

end Stencil.Grammar
