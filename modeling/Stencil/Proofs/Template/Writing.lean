import Stencil.Proofs.Rendering.Run
import Stencil.Proofs.Template.Passing

/-! # Literals come back as they were written

Every text can be put between quotes so that it is read as the value of a literal: alone
as an expression, alone in a block, and as an argument of any function. Braces, dollar
signs, equals signs, line ends and quotes of the other kind need no escape there.
-/

namespace Stencil

open Grammar

theorem Grammar.NameChar.isBlank_eq_false {c : Char} (hc : NameChar c) :
    Text.isBlank c = false := by
  have hrange : 48 ≤ c.toNat ∧ c.toNat ≤ 122 := by
    simp only [NameChar, Char.le_def, UInt32.le_iff_toNat_le] at hc
    rcases hc with ⟨hlow, hhigh⟩ | ⟨hlow, hhigh⟩ | ⟨hlow, hhigh⟩ | rfl
    · exact ⟨Nat.le_trans (by decide) hlow, Nat.le_trans hhigh (by decide)⟩
    · exact ⟨Nat.le_trans (by decide) hlow, Nat.le_trans hhigh (by decide)⟩
    · exact ⟨Nat.le_trans (by decide) hlow, Nat.le_trans hhigh (by decide)⟩
    · decide
  simp only [Text.isBlank, Bool.or_eq_false_iff, Bool.and_eq_false_iff, decide_eq_false_iff_not,
    beq_eq_false_iff_ne]
  omega

/-- A function's name does not start with a blank. -/
theorem Grammar.Function.isBlank_of_head {name : Text} {function : FunctionRef}
    (head : Grammar.Function name function) : ∀ c ∈ name.head?, Text.isBlank c = false := by
  intro c hc
  cases head with
  | plain hname => exact (hname.2 c (List.mem_of_mem_head? hc)).isBlank_eq_false
  | @qualified plugin name hplugin =>
      obtain ⟨d, rest, rfl⟩ := List.exists_cons_of_ne_nil hplugin.1
      exact (hplugin.2 c (List.mem_of_mem_head? hc)).isBlank_eq_false

namespace Literal

theorem isBlank_quote (quote : Quote) : Text.isBlank quote.char = false := by
  cases quote <;> decide

/-- What ends in a written literal has no blanks to be trimmed, unless it starts with one. -/
theorem trimmed_append (literal : Literal) {front : Text}
    (hfront : ∀ c ∈ front.head?, Text.isBlank c = false) :
    (front ++ literal.written).Trimmed where
  ne_nil := List.append_ne_nil_of_right_ne_nil front (List.cons_ne_nil _ _)
  first := by
    cases front with
    | nil =>
        rintro c ⟨⟩
        exact isBlank_quote literal.quote
    | cons c front => exact hfront
  last := by
    intro c hc
    rw [written, ← List.append_assoc, List.getLast?_concat] at hc
    cases hc
    exact isBlank_quote literal.quote

theorem derives_written (literal : Literal) :
    Derives literal.written (some (.operand (.literal literal))) :=
  literal.argument_written.derives

theorem gap_space : Gap [' '] := .cons (.inl rfl) .nil

/-- A call whose only argument is the literal, without a name. -/
theorem derives_input (literal : Literal) {name : Text} {function : FunctionRef}
    (head : Grammar.Function name function) :
    Derives (name ++ [' '] ++ literal.written)
      (some (.call ⟨function, some (.literal literal), []⟩)) := by
  have positional := Input.some gap_space (List.cons_ne_nil _ _) literal.argument_written
  have derivation := Derives.call .nil head positional .nil .nil
  simpa only [List.nil_append, List.append_nil, List.append_assoc] using derivation

/-- A call whose only argument is the literal, with a name. -/
theorem derives_named (literal : Literal) {name argument : Text} {function : FunctionRef}
    (head : Grammar.Function name function) (hargument : Name argument) :
    Derives (name ++ [' '] ++ argument ++ ['='] ++ literal.written)
      (some (.call ⟨function, none, [⟨argument, .literal literal⟩]⟩)) := by
  have named := Named.intro hargument .nil .nil literal.argument_written
  have tail := Tail.cons gap_space (List.cons_ne_nil _ _) named .nil
  have derivation := Derives.call .nil head .none tail .nil
  simpa only [List.nil_append, List.append_nil, List.append_assoc, List.cons_append] using
    derivation

end Literal

namespace Template

variable {inlineVariables : Bool}

/-- A block without blanks at its ends is read as it stands. -/
theorem read_trimmed {content : Text} {expression : Expression}
    (derivation : Derives content (some expression)) (trimmed : content.Trimmed) :
    read inlineVariables (opener ++ content ++ closer) =
      .ok [.ofExpression content expression] := by
  have hnone : Text.Blanks [] := fun _ hc => nomatch hc
  have hread := @read_block inlineVariables _ _ _ _ hnone derivation trimmed hnone
  rw [List.nil_append, List.append_nil] at hread
  exact hread

theorem read_written (literal : Literal) :
    read inlineVariables (opener ++ literal.written ++ closer) = .ok [.literal literal] := by
  refine read_trimmed literal.derives_written ?_
  rw [← List.nil_append literal.written]
  refine literal.trimmed_append ?_
  rintro c ⟨⟩

theorem read_input (literal : Literal) {name : Text} {function : FunctionRef}
    (head : Grammar.Function name function) :
    read inlineVariables (opener ++ (name ++ [' '] ++ literal.written) ++ closer) =
      .ok [.call (name ++ [' '] ++ literal.written) ⟨function, some (.literal literal), []⟩] := by
  refine read_trimmed (literal.derives_input head) (literal.trimmed_append ?_)
  obtain ⟨c, rest, rfl, -⟩ := head.unit.exists_cons
  exact head.isBlank_of_head

theorem read_named (literal : Literal) {name argument : Text} {function : FunctionRef}
    (head : Grammar.Function name function) (hargument : Name argument) :
    read inlineVariables
        (opener ++ (name ++ [' '] ++ argument ++ ['='] ++ literal.written) ++ closer) =
      .ok [.call (name ++ [' '] ++ argument ++ ['='] ++ literal.written)
        ⟨function, none, [⟨argument, .literal literal⟩]⟩] := by
  refine read_trimmed (literal.derives_named head hargument) (literal.trimmed_append ?_)
  obtain ⟨c, rest, rfl, -⟩ := head.unit.exists_cons
  exact head.isBlank_of_head

/-- A literal renders to its value, whatever there is to render with, and does nothing else. -/
theorem render_written {σ : Type} (literal : Literal) (config : Config) (lookup : Lookup σ)
    (vars : Variables) (world : World σ) :
    render ⟨opener ++ literal.written ++ closer, config⟩ lookup vars world =
      (.ok literal.value, world) := by
  have run : Block.Ends config lookup (config.seed vars) world [.literal literal]
      (.ok [literal.value].flatten) ([] ++ []) world :=
    .completed (.cons (.literal world literal) (.nil world))
  rw [render, blocks, read_written]
  dsimp only
  rw [Config.render, run.renderAll, List.flatten_singleton]
  rfl

/-- Every text can be written as a literal with either quote and comes back exactly: as an
expression, as a block of its own with the value shown between its quotes, as the output of
that block, and as the only argument of any function, with or without a name. -/
theorem written_comes_back (literal : Literal) :
    Expression.read literal.written = .ok (some (.operand (.literal literal))) ∧
    (∀ inlineVariables,
      read inlineVariables (opener ++ literal.written ++ closer) = .ok [.literal literal]) ∧
    (Block.literal literal).content =
      literal.quote.char :: literal.value ++ [literal.quote.char] ∧
    (∀ (σ : Type) (config : Config) (lookup : Lookup σ) (vars : Variables) (world : World σ),
      render ⟨opener ++ literal.written ++ closer, config⟩ lookup vars world =
        (.ok literal.value, world)) ∧
    (∀ root, (Operand.literal literal).resolve root = literal.value) ∧
    ∀ (name : Text) (function : FunctionRef), Grammar.Function name function →
      (∀ inlineVariables,
        read inlineVariables (opener ++ (name ++ [' '] ++ literal.written) ++ closer) =
          .ok [.call (name ++ [' '] ++ literal.written)
            ⟨function, some (.literal literal), []⟩]) ∧
      ∀ (argument : Text), Name argument → ∀ inlineVariables,
        read inlineVariables
            (opener ++ (name ++ [' '] ++ argument ++ ['='] ++ literal.written) ++ closer) =
          .ok [.call (name ++ [' '] ++ argument ++ ['='] ++ literal.written)
            ⟨function, none, [⟨argument, .literal literal⟩]⟩] := by
  refine ⟨Expression.readAt_eq_ok.mpr literal.derives_written, fun _ => read_written literal, rfl,
    fun _ config lookup vars world => render_written literal config lookup vars world,
    fun _ => rfl, fun name function head => ⟨fun _ => read_input literal head, ?_⟩⟩
  intro argument hargument _
  exact read_named literal head hargument

/-- The text `it's {{$a='b'}} \` with a line end and a further backslash behind it, as the
argument of a function of a plugin. -/
theorem written_comes_back_mixed : ∃ literal : Literal,
    literal = ⟨.single, "it's \x7b\x7b$a='b'\x7d\x7d \\\n\\".toList⟩ ∧
    literal.written = "'it\\'s \x7b\x7b$a=\\'b\\'\x7d\x7d \\\\\n\\\\'".toList ∧
    Grammar.Function (['p'] ++ '.' :: ['f']) ⟨some ['p'], ['f']⟩ ∧ Name ['n'] ∧
    read true (opener ++ (['p'] ++ '.' :: ['f'] ++ [' '] ++ literal.written) ++ closer) =
      .ok [.call (['p'] ++ '.' :: ['f'] ++ [' '] ++ literal.written)
        ⟨⟨some ['p'], ['f']⟩, some (.literal literal), []⟩] ∧
    read true (opener ++ (['p'] ++ '.' :: ['f'] ++ [' '] ++ ['n'] ++ ['='] ++ literal.written) ++
        closer) =
      .ok [.call (['p'] ++ '.' :: ['f'] ++ [' '] ++ ['n'] ++ ['='] ++ literal.written)
        ⟨⟨some ['p'], ['f']⟩, none, [⟨['n'], .literal literal⟩]⟩] := by
  have hfunction : Grammar.Function (['p'] ++ '.' :: ['f']) ⟨some ['p'], ['f']⟩ :=
    .qualified (isName_iff.mp rfl) (isName_iff.mp rfl)
  have hargument : Name ['n'] := isName_iff.mp rfl
  obtain ⟨-, -, -, -, -, hcalls⟩ :=
    written_comes_back ⟨.single, "it's \x7b\x7b$a='b'\x7d\x7d \\\n\\".toList⟩
  obtain ⟨hinput, hnamed⟩ := hcalls _ _ hfunction
  exact ⟨_, rfl, by decide, hfunction, hargument, hinput true, hnamed _ hargument true⟩

end Template

end Stencil
