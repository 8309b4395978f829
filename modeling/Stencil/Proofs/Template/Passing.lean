import Stencil.Proofs.Expression.Quoting
import Stencil.Proofs.Template.Simulation

/-! # Templates of one block

The scan of a block passes over whatever it holds until two closing braces stand
outside its literals. It passes over every expression, since these have braces and
quotes in literals alone. So an expression between two pairs of braces is a template
of one block, and reading that template gives the expression back.
-/

namespace Stencil

open Grammar
open Text (Blanks)

/-- A character that neither opens nor closes a block or a literal. -/
structure Inert (c : Char) : Prop where
  ne_open : c ≠ '{'
  ne_close : c ≠ '}'
  no_quote : Quote.ofChar? c = none

instance (c : Char) : Decidable (Inert c) :=
  decidable_of_iff (c ≠ '{' ∧ c ≠ '}' ∧ Quote.ofChar? c = none)
    ⟨fun ⟨hopen, hclose, hquote⟩ => ⟨hopen, hclose, hquote⟩,
      fun h => ⟨h.ne_open, h.ne_close, h.no_quote⟩⟩

theorem Quote.ofChar?_eq_none {c : Char} :
    ofChar? c = none ↔ c ≠ '\'' ∧ c ≠ '"' := by
  unfold ofChar?
  split
  next hc => simp [hc]
  next hc =>
    split
    next hd => simp [hd]
    next hd => simp [hc, hd]

/-- A class of characters without braces and quotes has only inert characters. -/
theorem Inert.of_class {p : Char → Prop} (hopen : ¬ p '{') (hclose : ¬ p '}')
    (hsingle : ¬ p '\'') (hdouble : ¬ p '"') {c : Char} (hc : p c) : Inert c where
  ne_open := by
    rintro rfl
    exact hopen hc
  ne_close := by
    rintro rfl
    exact hclose hc
  no_quote := by
    rw [Quote.ofChar?_eq_none]
    constructor
    · rintro rfl
      exact hsingle hc
    · rintro rfl
      exact hdouble hc

theorem Inert.of_blank {c : Char} (hc : Text.isBlank c = true) : Inert c :=
  Inert.of_class (p := fun c => Text.isBlank c = true) (by decide) (by decide) (by decide)
    (by decide) hc

theorem Grammar.NameChar.inert {c : Char} (hc : NameChar c) : Inert c :=
  Inert.of_class (p := NameChar) (by decide) (by decide) (by decide) (by decide) hc

/-! ## Passing over text -/

namespace Regions

/-- The scan of a block passes over the text as it stands, whatever it has seen before. -/
def Passes (text : Text) : Prop :=
  ∀ seen rest, scan (.inside seen) (text ++ rest) = scan (.inside (text.reverse ++ seen)) rest

theorem Passes.nil : Passes [] := fun _ _ => rfl

theorem Passes.append {first second : Text} (hfirst : Passes first) (hsecond : Passes second) :
    Passes (first ++ second) := by
  intro seen rest
  rw [List.append_assoc, hfirst, hsecond, List.reverse_append, List.append_assoc]

theorem Passes.char {c : Char} (hc : Inert c) : Passes [c] := by
  intro seen rest
  have hchar := @Scanner.scan_inside_char c seen rest (fun _ => hc.ne_open)
    (fun hopen => hc.ne_open hopen.1) (fun hclose => hc.ne_close hclose.1)
  rw [hc.no_quote] at hchar
  exact hchar

theorem Passes.cons {c : Char} {text : Text} (hc : Inert c) (htext : Passes text) :
    Passes (c :: text) :=
  (Passes.char hc).append htext

theorem Passes.of_inert {text : Text} (htext : ∀ c ∈ text, Inert c) : Passes text := by
  induction text with
  | nil => exact .nil
  | cons c text ih =>
      obtain ⟨hc, htext⟩ := List.forall_mem_cons.mp htext
      exact .cons hc (ih htext)

/-- In a literal a backslash is passed over together with the character behind it. -/
theorem scan_quoted_pair (quote : Quote) (c : Char) (seen rest : Text) :
    scan (.quoted quote seen) ('\\' :: c :: rest) =
      scan (.quoted quote (c :: '\\' :: seen)) rest := by
  by_cases hc : Text.isEscapable c = true
  · rw [scan, if_pos hc]
  · have hplain : ¬ Escapable c := fun h => hc (isEscapable_iff.mpr h)
    have hslash : c ≠ '\\' := fun h => hplain (.inr (.inr h))
    have hquote : c ≠ quote.char := by
      rintro rfl
      cases quote
      · exact hplain (.inl rfl)
      · exact hplain (.inr (.inl rfl))
    rw [scan, if_neg hc, Scanner.scan_quoted_char fun h => hslash h.1, if_neg hquote]

/-- In a literal any other character but its quote is passed over alone. -/
theorem scan_quoted_plain {quote : Quote} {c : Char} (hquote : c ≠ quote.char)
    (hslash : c ≠ '\\') (seen rest : Text) :
    scan (.quoted quote seen) (c :: rest) = scan (.quoted quote (c :: seen)) rest := by
  rw [Scanner.scan_quoted_char fun h => hslash h.1, if_neg hquote]

/-- At its quote a literal is over. -/
theorem scan_quoted_end (quote : Quote) (seen rest : Text) :
    scan (.quoted quote seen) (quote.char :: rest) =
      scan (.inside (quote.char :: seen)) rest := by
  have hslash : quote.char ≠ '\\' := by cases quote <;> decide
  rw [Scanner.scan_quoted_char fun h => hslash h.1, if_pos rfl]

/-- What may stand between two quotes is passed over up to the second one. -/
theorem scan_enclosed {quote : Quote} {source value : Text}
    (enclosed : Enclosed quote source value) (seen rest : Text) :
    scan (.quoted quote seen) (source ++ quote.char :: rest) =
      scan (.inside (quote.char :: (source.reverse ++ seen))) rest := by
  induction enclosed generalizing seen with
  | nil => exact scan_quoted_end quote seen rest
  | plain hquote hslash _ ih =>
      rw [List.cons_append, scan_quoted_plain hquote hslash, ih, List.reverse_cons,
        List.append_assoc, List.singleton_append]
  | escape _ _ ih =>
      rw [List.cons_append, List.cons_append, scan_quoted_pair, ih]
      simp
  | kept _ _ ih =>
      rw [List.cons_append, List.cons_append, scan_quoted_pair, ih]
      simp

/-- A quote in a block starts a literal. -/
theorem scan_inside_quote (quote : Quote) (seen rest : Text) :
    scan (.inside seen) (quote.char :: rest) = scan (.quoted quote (quote.char :: seen)) rest := by
  have hopen : quote.char ≠ '{' := by cases quote <;> decide
  have hclose : quote.char ≠ '}' := by cases quote <;> decide
  rw [Scanner.scan_inside_char (fun _ => hopen) (fun h => hopen h.1) (fun h => hclose h.1),
    Quote.ofChar?_char]

theorem Passes.literal {quote : Quote} {source value : Text}
    (enclosed : Enclosed quote source value) :
    Passes (quote.char :: source ++ [quote.char]) := by
  intro seen rest
  rw [List.cons_append, List.cons_append, List.append_assoc, List.singleton_append,
    scan_inside_quote, scan_enclosed enclosed]
  simp

end Regions

/-! ## Expressions are passed over -/

namespace Grammar

open Regions (Passes)

theorem Gap.passes {gap : Text} (hgap : Gap gap) : Passes gap :=
  .of_inert fun c hc => .of_blank (hgap.blanks c hc)

theorem Name.passes {name : Text} (hname : Name name) : Passes name :=
  .of_inert fun c hc => (hname.2 c hc).inert

theorem Argument.passes {text : Text} {operand : Operand} (argument : Argument text operand) :
    Passes text := by
  cases argument with
  | literal inside => exact .literal (inside_iff_enclosed.mp inside).1
  | var hname => exact .cons (by decide) hname.passes

theorem Function.passes {text : Text} {function : FunctionRef}
    (head : Function text function) : Passes text := by
  cases head with
  | plain hname => exact hname.passes
  | qualified hplugin hname =>
      exact hplugin.passes.append (.cons (by decide) hname.passes)

theorem Named.passes {text : Text} {binding : Binding} (named : Named text binding) :
    Passes text := by
  cases named with
  | intro hname hbefore hafter argument =>
      have hsign : Inert '=' := by decide
      have hfront := (hname.passes.append hbefore.passes).append (.cons hsign hafter.passes)
      exact hfront.append argument.passes

theorem Input.passes {text : Text} {input : Option Operand} (positional : Input text input) :
    Passes text := by
  cases positional with
  | none => exact .nil
  | some hgap _ argument => exact hgap.passes.append argument.passes

theorem Tail.passes {text : Text} {named : List Binding} (tail : Tail text named) :
    Passes text := by
  induction tail with
  | nil => exact .nil
  | cons hgap _ named _ ih => exact (hgap.passes.append named.passes).append ih

/-- The scan of a block passes over every expression. -/
theorem Derives.passes {text : Text} {expression : Option Expression}
    (derivation : Derives text expression) : Passes text := by
  cases derivation with
  | blank hgap => exact hgap.passes
  | operand hbefore argument hafter =>
      exact (hbefore.passes.append argument.passes).append hafter.passes
  | call hbefore head positional tail hafter =>
      have hcall := (hbefore.passes.append head.passes).append positional.passes
      exact (hcall.append tail.passes).append hafter.passes

end Grammar

/-! ## One block -/

/-- A text that neither starts nor ends with a blank, and is not empty. -/
structure Text.Trimmed (text : Text) : Prop where
  ne_nil : text ≠ []
  first : ∀ c ∈ text.head?, isBlank c = false
  last : ∀ c ∈ text.getLast?, isBlank c = false

/-- Blanks around a trimmed text are all that is trimmed. -/
theorem Text.Trimmed.trim_append {content : Text} (trimmed : content.Trimmed)
    {before after : Text} (hbefore : Blanks before) (hafter : Blanks after) :
    leadingBlanks (before ++ content ++ after) = before ∧
      trim (before ++ content ++ after) = content := by
  have hhead : ∀ c ∈ (content ++ after).head?, isBlank c = false := by
    intro c hc
    obtain ⟨d, rest, rfl⟩ := List.exists_cons_of_ne_nil trimmed.ne_nil
    exact trimmed.first c hc
  have hlast : ∀ c ∈ content.reverse.head?, isBlank c = false := by
    rw [List.head?_reverse]
    exact trimmed.last
  have htrail : ∀ c ∈ after.reverse, isBlank c = true :=
    fun c hc => hafter c (List.mem_reverse.mp hc)
  obtain ⟨hlead, hstart⟩ := Lexeme.span_append hbefore hhead
  rw [trim, trimEnd, trimStart, leadingBlanks, List.append_assoc, hlead, hstart,
    List.reverse_append, (Lexeme.span_append htrail hlast).2, List.reverse_reverse]
  exact ⟨rfl, rfl⟩

namespace Regions

/-- A block whose inside is passed over is a region of its own. -/
theorem ofTemplate_block {interior : Text} (hpasses : Passes interior) :
    ofTemplate (opener ++ interior ++ closer) =
      ⟨[.plain [], .closed interior, .plain []], none⟩ := by
  have hopen : ofTemplate (opener ++ interior ++ closer) =
      (scan (.inside []) (interior ++ closer)).after (.plain []) := by
    rw [List.append_assoc]
    exact scan.eq_2 [] (interior ++ closer)
  rw [hopen, hpasses [] closer, List.append_nil]
  change after (.plain []) (scan (.inside interior.reverse) ['}', '}']) = _
  rw [scan, scan, List.reverse_reverse]
  rfl

end Regions

namespace Template

variable {inlineVariables : Bool}

/-- A template that is one block is read as what the inside of the block makes. -/
theorem read_closed {interior : Text} {block : Block} (hpasses : Regions.Passes interior)
    (hpiece : ∀ start, Piece.ofInterior start interior = .ok (.block block)) :
    read inlineVariables (opener ++ interior ++ closer) = .ok [block] := by
  rw [read, ofRegions, Regions.ofTemplate_block hpasses]
  cases inlineVariables with
  | true =>
      simp only [Piece.list, Piece.ofRegion, hpiece, if_true, Piece.inline]
      rfl
  | false =>
      simp only [Piece.list, Piece.ofRegion, hpiece]
      rfl

/-- Blanks around the expression in a block are left out. -/
theorem read_block {before content after : Text} {expression : Expression}
    (hbefore : Blanks before) (derivation : Derives content (some expression))
    (trimmed : content.Trimmed) (hafter : Blanks after) :
    read inlineVariables (opener ++ (before ++ content ++ after) ++ closer) =
      .ok [.ofExpression content expression] := by
  have hblanks {blanks : Text} (h : Blanks blanks) : Regions.Passes blanks :=
    .of_inert fun c hc => .of_blank (h c hc)
  obtain ⟨-, htrim⟩ := trimmed.trim_append hbefore hafter
  refine read_closed (((hblanks hbefore).append derivation.passes).append (hblanks hafter)) ?_
  intro start
  rw [Piece.ofInterior, htrim, Expression.readAt_eq_ok.mpr derivation]
  rfl

end Template

end Stencil
