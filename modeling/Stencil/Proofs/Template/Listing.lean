import Mathlib.Data.List.Forall2
import Mathlib.Data.List.Induction
import Stencil.Proofs.Template.Parameters
import Stencil.Proofs.Text.Recasing

/-! # The list of parameters

The declared parameters come first, as they are declared. Behind them stands one parameter for each
name that is read and not declared, in the order of the first reads and in their spelling. So a name
that is listed twice is one that is declared twice.
-/

namespace Stencil

namespace Block

/-! ## What is read, in order -/

/-- The arguments that a block resolves, in order: the variable that it is, the value of a named
argument, or those of a call, the unnamed one first and then the named ones as they are written. -/
def operands : Block → List Operand
  | .var name => [.var name]
  | .binding b => [b.value]
  | .call _ c => c.input.toList ++ c.named.map Binding.value
  | _ => []

theorem reads_eq (block : Block) : block.reads = block.operands.filterMap Operand.reads? := by
  cases block with
  | binding b =>
      rw [reads, operands, List.filterMap_cons, List.filterMap_nil]
      cases b.value.reads? <;> rfl
  | _ => rfl

theorem flatMap_reads (blocks : List Block) :
    blocks.flatMap reads = (blocks.flatMap operands).filterMap Operand.reads? := by
  rw [funext reads_eq, List.filterMap_flatMap]

end Block

theorem Operand.mem_filterMap_reads? {operands : List Operand} {name : Text} :
    name ∈ operands.filterMap Operand.reads? ↔ .var name ∈ operands := by
  rw [List.mem_filterMap]
  constructor
  · rintro ⟨operand, hmem, hname⟩
    cases operand with
    | literal literal => cases hname
    | var other =>
        cases hname
        exact hmem
  · intro hmem
    exact ⟨.var name, hmem, rfl⟩

namespace Parameter

/-- The argument at a position is the first to read a name, in whatever case the name is spelt, and
no declared parameter has it. -/
structure FirstRead (declared : List Parameter) (operands : List Operand) (position : Nat)
    (name : Text) : Prop where
  reads : operands[position]? = some (.var name)
  undeclared : ∀ parameter ∈ declared, ¬ parameter.name.Recased name
  unread : ∀ earlier < position, ∀ other, operands[earlier]? = some (.var other) →
    ¬ other.Recased name

/-- No two of the parameters have one name. -/
def Distinct (parameters : List Parameter) : Prop :=
  parameters.Pairwise fun first second => ¬ first.name.Recased second.name

instance (parameters : List Parameter) : Decidable (Distinct parameters) :=
  inferInstanceAs (Decidable (List.Pairwise _ _))

variable {declared parameters : List Parameter} {operands : List Operand} {operand : Operand}
  {position : Nat} {name : Text}

/-! ## One more name -/

theorem mention_of_new (hnew : ∀ parameter ∈ parameters, ¬ parameter.name.Recased name) :
    mention parameters name = parameters ++ [.named name] := by
  rw [mention, if_neg]
  simpa [Text.sameName_iff_recased] using hnew

theorem mention_of_known (hknown : ¬ ∀ parameter ∈ parameters, ¬ parameter.name.Recased name) :
    mention parameters name = parameters := by
  rw [mention, if_pos]
  simpa [Text.sameName_iff_recased] using hknown

/-- What is listed was there before or has one of the names that are mentioned. -/
theorem name_mem_of_mem_foldl {parameter : Parameter} {names : List Text}
    (h : parameter ∈ names.foldl mention parameters) :
    parameter ∈ parameters ∨ parameter.name ∈ names := by
  induction names generalizing parameters with
  | nil => exact .inl h
  | cons first rest ih =>
      rcases ih h with hlisted | hrest
      · rw [mention] at hlisted
        split at hlisted
        next => exact .inl hlisted
        next =>
          rcases List.mem_append.mp hlisted with hold | hnew
          · exact .inl hold
          · rw [List.mem_singleton.mp hnew]
            exact .inr List.mem_cons_self
      · exact .inr (List.mem_cons_of_mem first hrest)

/-- A name is not listed if it is neither declared nor read. -/
theorem forall_mem_foldl_iff :
    (∀ parameter ∈ (operands.filterMap Operand.reads?).foldl mention declared,
        ¬ parameter.name.Recased name) ↔
      (∀ parameter ∈ declared, ¬ parameter.name.Recased name) ∧
        ∀ other, .var other ∈ operands → ¬ other.Recased name := by
  constructor
  · intro hnew
    refine ⟨fun parameter hmem => hnew parameter (mem_foldl_mention hmem _), ?_⟩
    intro other hother hname
    -- the other name is listed too, perhaps in a third spelling
    obtain ⟨parameter, hmem, hsame⟩ :=
      exists_mem_foldl_mention (Operand.mem_filterMap_reads?.mpr hother)
    apply hnew parameter hmem
    rw [← Text.sameName_iff_recased, Text.sameName_congr hsame]
    exact Text.sameName_iff_recased.mpr hname
  · rintro ⟨hdeclared, hread⟩ parameter hmem
    rcases name_mem_of_mem_foldl hmem with hold | hnew
    · exact hdeclared parameter hold
    · exact hread parameter.name (Operand.mem_filterMap_reads?.mp hnew)

/-! ## First reads -/

theorem FirstRead.lt_length (first : FirstRead declared operands position name) :
    position < operands.length :=
  (List.getElem?_eq_some_iff.mp first.reads).1

/-- One more argument is a first read exactly if its name is not listed yet. -/
theorem firstRead_concat :
    FirstRead declared (operands ++ [operand]) position name ↔
      FirstRead declared operands position name ∨
        (position = operands.length ∧ operand = .var name ∧
          ∀ parameter ∈ (operands.filterMap Operand.reads?).foldl mention declared,
            ¬ parameter.name.Recased name) := by
  rw [forall_mem_foldl_iff]
  constructor
  · rintro ⟨hreads, hundeclared, hunread⟩
    rcases Nat.lt_trichotomy position operands.length with hlt | rfl | hgt
    · rw [List.getElem?_append_left hlt] at hreads
      refine .inl ⟨hreads, hundeclared, fun earlier hearlier => ?_⟩
      have hother := hunread earlier hearlier
      rwa [List.getElem?_append_left (by omega)] at hother
    · refine .inr ⟨rfl, by simpa using hreads, hundeclared, ?_⟩
      intro other hother
      obtain ⟨earlier, hearlier, hget⟩ := List.getElem_of_mem hother
      apply hunread earlier hearlier
      rw [List.getElem?_append_left hearlier, List.getElem?_eq_getElem hearlier, hget]
    · rw [List.getElem?_eq_none (by simp; omega)] at hreads
      cases hreads
  · rintro (first | ⟨rfl, rfl, hundeclared, hread⟩)
    · have hlt := first.lt_length
      refine ⟨?_, first.undeclared, fun earlier hearlier => ?_⟩
      · rw [List.getElem?_append_left hlt]
        exact first.reads
      · rw [List.getElem?_append_left (by omega)]
        exact first.unread earlier hearlier
    · refine ⟨by simp, hundeclared, fun earlier hearlier other hother => ?_⟩
      rw [List.getElem?_append_left hearlier] at hother
      exact hread other (List.mem_of_getElem? hother)

/-- Behind what is declared, the names that are read are listed where they are first read. -/
theorem exists_first_reads (declared : List Parameter) (operands : List Operand) :
    ∃ firsts : List (Nat × Text),
      (operands.filterMap Operand.reads?).foldl mention declared =
          declared ++ firsts.map (fun first => .named first.2) ∧
        (firsts.map Prod.fst).Pairwise (· < ·) ∧
        ∀ position name,
          (position, name) ∈ firsts ↔ FirstRead declared operands position name := by
  induction operands using List.reverseRecOn with
  | nil =>
      refine ⟨[], by simp, .nil, fun position name => ⟨by simp, ?_⟩⟩
      intro first
      simpa using first.lt_length
  | append_singleton operands operand ih =>
      obtain ⟨firsts, hlisted, hordered, hfirsts⟩ := ih
      simp only [firstRead_concat, List.filterMap_append, List.foldl_append]
      cases operand with
      | literal literal =>
          have hreads : [Operand.literal literal].filterMap Operand.reads? = [] := rfl
          rw [hreads, List.foldl_nil]
          refine ⟨firsts, hlisted, hordered, ?_⟩
          simpa using hfirsts
      | var spelling =>
          have hreads : [Operand.var spelling].filterMap Operand.reads? = [spelling] := rfl
          rw [hreads, List.foldl_cons, List.foldl_nil]
          by_cases hnew : ∀ parameter ∈ (operands.filterMap Operand.reads?).foldl mention declared,
              ¬ parameter.name.Recased spelling
          · -- a new name comes last
            refine ⟨firsts ++ [(operands.length, spelling)], ?_, ?_, ?_⟩
            · rw [mention_of_new hnew, hlisted]
              simp
            · rw [List.map_append, List.pairwise_append]
              refine ⟨hordered, List.pairwise_singleton _ _, ?_⟩
              simp only [List.mem_map, List.map_cons, List.map_nil, List.mem_singleton]
              rintro _ ⟨⟨position, name⟩, hmem, rfl⟩ _ rfl
              exact ((hfirsts position name).mp hmem).lt_length
            · intro position name
              simp only [List.mem_append, List.mem_singleton, hfirsts, Prod.mk.injEq,
                Operand.var.injEq]
              grind
          · -- a name that is listed keeps its place and its spelling
            refine ⟨firsts, ?_, hordered, ?_⟩
            · rw [mention_of_known hnew, hlisted]
            · intro position name
              simp only [hfirsts, Operand.var.injEq]
              grind

/-- Of two names that are first read at different places the later is not the earlier again. -/
theorem FirstRead.not_recased {earlier later : Nat} {other : Text}
    (first : FirstRead declared operands earlier other)
    (second : FirstRead declared operands later name) (hlt : earlier < later) :
    ¬ other.Recased name :=
  second.unread earlier hlt other first.reads

end Parameter

namespace Template

open Parameter

/-- The parameters can be listed exactly where the template can be read, and are refused as it is.
The declared ones come first, as they are declared. Behind them stands one parameter, with no
description and no default, for each argument that is the first to read a name that is not
declared, in the order of these arguments and in their spelling. -/
theorem parameters_in_order (template : Template) :
    match template.blocks with
    | .error refusal => template.parameters = .error refusal
    | .ok blocks =>
      ∃ (positions : List Nat) (others : List Parameter),
        template.parameters = .ok (template.config.parameters ++ others) ∧
        positions.Pairwise (· < ·) ∧
        (∀ position, position ∈ positions ↔
          ∃ name, FirstRead template.config.parameters (blocks.flatMap Block.operands) position
            name) ∧
        List.Forall₂ (fun position other =>
            FirstRead template.config.parameters (blocks.flatMap Block.operands) position
              other.name ∧ other.description = [] ∧ other.default = none)
          positions others := by
  cases hblocks : template.blocks with
  | error refusal =>
      dsimp only
      rw [parameters, hblocks]
      rfl
  | ok blocks =>
      obtain ⟨firsts, hlisted, hordered, hfirsts⟩ :=
        exists_first_reads template.config.parameters (blocks.flatMap Block.operands)
      refine ⟨firsts.map Prod.fst, firsts.map fun first => .named first.2, ?_, hordered, ?_, ?_⟩
      · rw [← hlisted, ← Block.flatMap_reads]
        exact parameters_eq_ok.mpr ⟨blocks, hblocks, rfl⟩
      · intro position
        simp [← hfirsts]
      · rw [List.forall₂_map_left_iff, List.forall₂_map_right_iff, List.forall₂_same]
        intro first hmem
        exact ⟨(hfirsts first.1 first.2).mp hmem, rfl, rfl⟩

/-- Four names are read, and `$A` alone is new behind `$b`: `$B` is another spelling of that, and
`$c` of a name that is declared. -/
example :
    (Template.parameters ⟨"$b\x7b\x7bf $A a=$B\x7d\x7d$c".toList,
        { Config.standard with parameters := [⟨['C'], ['x'], some ['y']⟩] }⟩).toOption.map
      (List.map Parameter.name) = some [['C'], ['b'], ['A']] := by
  decide +kernel

/-- No name is listed twice unless it is declared twice: the names that are added are told from each
other and from those that are declared. -/
theorem repeats_are_declared {template : Template} {parameters : List Parameter}
    (h : template.parameters = .ok parameters) :
    (∃ others, parameters = template.config.parameters ++ others ∧ Distinct others ∧
      ∀ parameter ∈ template.config.parameters, ∀ other ∈ others,
        ¬ parameter.name.Recased other.name) ∧
    (Distinct parameters ↔ Distinct template.config.parameters) := by
  obtain ⟨blocks, -, rfl⟩ := parameters_eq_ok.mp h
  rw [Block.flatMap_reads]
  obtain ⟨firsts, hlisted, hordered, hfirsts⟩ :=
    exists_first_reads template.config.parameters (blocks.flatMap Block.operands)
  have hothers : Distinct (firsts.map fun first => .named first.2) := by
    rw [List.pairwise_map] at hordered
    apply List.pairwise_map.mpr
    apply hordered.imp_of_mem
    intro first second hfirst hsecond hlt
    exact ((hfirsts first.1 first.2).mp hfirst).not_recased
      ((hfirsts second.1 second.2).mp hsecond) hlt
  have hapart : ∀ parameter ∈ template.config.parameters,
      ∀ other ∈ firsts.map fun first => Parameter.named first.2,
        ¬ parameter.name.Recased other.name := by
    simp only [List.forall_mem_map]
    intro parameter hmem first hfirst
    exact ((hfirsts first.1 first.2).mp hfirst).undeclared parameter hmem
  rw [hlisted]
  refine ⟨⟨_, rfl, hothers, hapart⟩, ?_⟩
  rw [Distinct, List.pairwise_append]
  exact ⟨fun hall => hall.1, fun hdeclared => ⟨hdeclared, hothers, hapart⟩⟩

/-- Where `x` and `Y` are declared, `$X$y{{f $z a=$Z}}` adds `z`, and no name is listed twice. -/
theorem repeats_are_declared_once : ∃ (template : Template) (parameters : List Parameter),
    template.source = "$X$y\x7b\x7bf $z a=$Z\x7d\x7d".toList ∧
    template.config.parameters = [.named ['x'], .named ['Y']] ∧
    template.parameters = .ok parameters ∧
    parameters.map Parameter.name = [['x'], ['Y'], ['z']] ∧ Distinct parameters := by
  let config : Config := { Config.standard with parameters := [.named ['x'], .named ['Y']] }
  let template : Template := ⟨"$X$y\x7b\x7bf $z a=$Z\x7d\x7d".toList, config⟩
  let call : Call := ⟨⟨none, ['f']⟩, some (.var ['z']), [⟨['a'], .var ['Z']⟩]⟩
  have hblocks : template.blocks = .ok [.var ['X'], .var ['y'], .call "f $z a=$Z".toList call] := by
    decide +kernel
  have hparameters : template.parameters = .ok [.named ['x'], .named ['Y'], .named ['z']] :=
    parameters_eq_ok.mpr ⟨_, hblocks, rfl⟩
  exact ⟨template, _, rfl, rfl, hparameters, rfl,
    (repeats_are_declared hparameters).2.mpr (by decide)⟩

/-- A parameter that is declared twice is listed twice. -/
theorem parameter_listed_twice : ∃ (template : Template) (parameters : List Parameter),
    template.source = ['$', 'x'] ∧ template.config.parameters = [.named ['x'], .named ['x']] ∧
    template.parameters = .ok parameters ∧ ¬ Distinct parameters := by
  let config : Config := { Config.standard with parameters := [.named ['x'], .named ['x']] }
  have hblocks : Template.blocks ⟨['$', 'x'], config⟩ = .ok [.var ['x']] := by
    decide +kernel
  exact ⟨⟨_, config⟩, _, rfl, rfl, parameters_eq_ok.mpr ⟨_, hblocks, rfl⟩, by decide⟩

end Template

end Stencil
