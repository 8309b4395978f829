import Stencil.Proofs.Template.Rereading

/-! # The form of blocks

The blocks of a template are texts, variables, literals and calls, whatever the template. What each
of them shows can be cut again into what it was made of: a variable's name stands behind its
sign, a literal's value between two equal quotes, a plugin before the dot and an argument's name
before the equals sign. The names in them are names that can be written, whichever rule of
the language let them in.
-/

namespace Stencil

open Grammar

/-! ## Well-formed parts -/

/-- A literal shows its value between two equal quotes. -/
structure Literal.WellFormed (literal : Literal) : Prop where
  two_le : 2 ≤ literal.content.length
  ends : ∃ quote, (quote = '\'' ∨ quote = '"') ∧ literal.content.head? = some quote ∧
    literal.content.getLast? = some quote
  between : literal.value = literal.content.tail.dropLast

/-- A variable has a name and shows it behind its sign. -/
def Operand.WellFormed (operand : Operand) : Prop :=
  match operand with
  | .literal l => l.WellFormed
  | .var name => Name name ∧ operand.content = '$' :: name

/-- A function has a name and shows it alone, or behind the name of a plugin and a dot. -/
structure FunctionRef.WellFormed (ref : FunctionRef) : Prop where
  function : Name ref.function
  content : (ref.plugin = none ∧ ref.content = ref.function) ∨
    ∃ plugin, ref.plugin = some plugin ∧ Name plugin ∧ ref.content = plugin ++ '.' :: ref.function

/-- A named argument has a name and shows it before the equals sign and its value. -/
structure Binding.WellFormed (binding : Binding) : Prop where
  name : Name binding.name
  value : binding.value.WellFormed
  content : binding.content = binding.name ++ '=' :: binding.value.content

structure Call.WellFormed (call : Call) : Prop where
  function : call.function.WellFormed
  input : ∀ operand ∈ call.input, operand.WellFormed
  named : ∀ binding ∈ call.named, binding.WellFormed

/-- A block as it comes out of a template. A call has no blank at either end and starts with its
function; a function or a named argument is no block by itself. -/
def Block.WellFormed (block : Block) : Prop :=
  match block with
  | .text _ => True
  | .var name => Name name ∧ block.content = '$' :: name
  | .literal l => l.WellFormed
  | .call content c => content.Trimmed ∧ c.function.content <+: content ∧ c.WellFormed
  | .binding _ | .function _ => False

/-! ## The rules of the language -/

theorem Literal.wellFormed (literal : Literal) : literal.WellFormed where
  two_le := by simp [content]
  ends := by
    refine ⟨literal.quote.char, ?_, rfl, List.getLast?_concat⟩
    cases literal.quote <;> simp [Quote.char]
  between := by simp [content]

namespace Grammar

theorem Argument.wellFormed {text : Text} {operand : Operand} (argument : Argument text operand) :
    operand.WellFormed := by
  cases argument with
  | literal => exact Literal.wellFormed _
  | var hname => exact ⟨hname, rfl⟩

theorem Function.wellFormed {text : Text} {ref : FunctionRef} (head : Function text ref) :
    ref.WellFormed := by
  cases head with
  | plain hname => exact ⟨hname, .inl ⟨rfl, rfl⟩⟩
  | qualified hplugin hname => exact ⟨hname, .inr ⟨_, rfl, hplugin, rfl⟩⟩

/-- A function is shown as it was written. -/
theorem Function.content_eq {text : Text} {ref : FunctionRef} (head : Function text ref) :
    ref.content = text := by
  cases head <;> rfl

theorem Named.wellFormed {text : Text} {binding : Binding} (named : Named text binding) :
    binding.WellFormed := by
  cases named with
  | intro hname _ _ argument => exact ⟨hname, argument.wellFormed, rfl⟩

theorem Input.wellFormed {text : Text} {input : Option Operand} (positional : Input text input) :
    ∀ operand ∈ input, operand.WellFormed := by
  cases positional with
  | none => simp
  | some _ _ argument => simpa using argument.wellFormed

theorem Tail.wellFormed {text : Text} {named : List Binding} (tail : Tail text named) :
    ∀ binding ∈ named, binding.WellFormed := by
  induction tail with
  | nil => simp
  | cons _ _ named _ ih => exact List.forall_mem_cons.mpr ⟨named.wellFormed, ih⟩

theorem Derives.wellFormed {text : Text} {call : Call}
    (derivation : Derives text (some (.call call))) : call.WellFormed := by
  cases derivation with
  | call _ head positional tail _ => exact ⟨head.wellFormed, positional.wellFormed, tail.wellFormed⟩

/-- A text without blanks at its ends starts with the function that it calls, for a gap in front of
that would be such blanks. -/
theorem Derives.function_isPrefix {text : Text} {call : Call} (trimmed : text.Trimmed)
    (derivation : Derives text (some (.call call))) : call.function.content <+: text := by
  cases derivation with
  | @call before name first rest after _ _ _ hbefore head _ _ _ =>
      cases before with
      | nil => exact ⟨first ++ rest ++ after, by simp [head.content_eq]⟩
      | cons c before =>
          have hblank := hbefore.blanks c List.mem_cons_self
          rw [trimmed.first c rfl] at hblank
          cases hblank

end Grammar

/-! ## Templates -/

theorem Segment.wellFormed {inlineVariables : Bool} {text : Text} {block : Block}
    (segment : Segment inlineVariables text block) (legible : block.Legible) :
    block.WellFormed := by
  cases segment with
  | text => trivial
  | inline _ hname => exact ⟨hname, rfl⟩
  | var _ hname _ => exact ⟨hname, rfl⟩
  | literal => exact Literal.wellFormed _
  | call _ derivation _ =>
      exact ⟨legible.1, derivation.function_isPrefix legible.1, derivation.wellFormed⟩

namespace Template

/-- Every block of a template that can be read is a text, a variable, a literal or a call, and is
well-formed. -/
theorem blocks_well_formed (inlineVariables : Bool) (template : Text) (blocks : List Block)
    (h : read inlineVariables template = .ok blocks) : ∀ block ∈ blocks, block.WellFormed := by
  have legible := legible_of_mem_read h
  obtain ⟨⟨segments, hsegments, -⟩, -⟩ := cover_read h
  clear h
  induction hsegments with
  | nil => simp
  | cons segment _ ih =>
      rw [List.forall_mem_cons] at legible ⊢
      exact ⟨segment.wellFormed legible.1, ih legible.2⟩

/-- The template `a$x{{$1}}{{ }}{{ 'l\'é'}}{{ p.f "v" n = $x }}` with no-break spaces around the
call. It has a variable outside blocks, one that starts with a digit, a kept block and an escape. -/
theorem blocks_well_formed_mixed : ∃ (template : Text) (blocks : List Block),
    template = "a$x\x7b\x7b$1\x7d\x7d\x7b\x7b \x7d\x7d\x7b\x7b 'l\\'".toList ++
      ['é', '\''] ++ closer ++ opener ++ '\u00a0' :: "p.f \"v\" n = $x".toList ++
      '\u00a0' :: closer ∧
    blocks = [.text ['a'], .var ['x'], .var ['1'], .text (opener ++ [' '] ++ closer),
      .literal ⟨.single, ['l', '\'', 'é']⟩,
      .call "p.f \"v\" n = $x".toList
        ⟨⟨some ['p'], ['f']⟩, some (.literal ⟨.double, ['v']⟩), [⟨['n'], .var ['x']⟩]⟩] ∧
    read true template = .ok blocks ∧ ∀ block ∈ blocks, block.WellFormed := by
  have hread : read true ("a$x\x7b\x7b$1\x7d\x7d\x7b\x7b \x7d\x7d\x7b\x7b 'l\\'".toList ++
      ['é', '\''] ++ closer ++ opener ++ '\u00a0' :: "p.f \"v\" n = $x".toList ++
      '\u00a0' :: closer) =
      .ok [.text ['a'], .var ['x'], .var ['1'], .text (opener ++ [' '] ++ closer),
        .literal ⟨.single, ['l', '\'', 'é']⟩,
        .call "p.f \"v\" n = $x".toList
          ⟨⟨some ['p'], ['f']⟩, some (.literal ⟨.double, ['v']⟩), [⟨['n'], .var ['x']⟩]⟩] := by
    decide +kernel
  exact ⟨_, _, rfl, rfl, hread, blocks_well_formed true _ _ hread⟩

end Template

end Stencil
