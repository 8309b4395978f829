import Stencil.Proofs.Rendering.Isolation
import Stencil.Proofs.Rendering.Likeness
import Stencil.Proofs.Template.Parameters
import Stencil.Proofs.Variables.Agreement

/-! # What a rendering depends on

The parameters of a template cover all that its blocks read. So two callers whose variables agree
on the parameters get the same text from every block that calls nothing, and every call is made
with the same arguments. What else they have set can reach the output through functions only, and
not through functions that depend on the arguments of their own call alone.
-/

namespace Stencil

variable {σ : Type}

/-! ## What a block reads -/

section

variable {names : Text → Prop} {root other : Variables}

theorem Variables.Agree.resolve (agree : Variables.Agree names root other) {operand : Operand}
    (hreads : ∀ name ∈ operand.reads?, names name) :
    operand.resolve root = operand.resolve other := by
  cases operand with
  | literal literal => rfl
  | var name => rw [Operand.resolve, Operand.resolve, agree name (hreads name rfl)]

/-- A block that calls nothing comes to the same text where all that it reads has the same
values. -/
theorem Variables.Agree.text? (agree : Variables.Agree names root other) {block : Block}
    (hreads : ∀ name ∈ block.reads, names name) : block.text? root = block.text? other := by
  cases block with
  | var name =>
      have hname : names name := hreads name List.mem_cons_self
      rw [Block.text?, Block.text?, Operand.resolve, Operand.resolve, agree name hname]
  | binding binding =>
      have hvalue : ∀ name ∈ binding.value.reads?, names name :=
        fun name hname => hreads name (Option.mem_toList.mpr hname)
      rw [Block.text?, Block.text?, agree.resolve hvalue]
  | _ => rfl

/-- A call binds the same arguments where all that it reads has the same values. -/
theorem Variables.Agree.bound (agree : Variables.Agree names root other) {call : Call}
    (hreads : ∀ name ∈ call.reads, names name) : call.bound root = call.bound other := by
  have hoperand : ∀ operand ∈ call.operands, operand.resolve root = operand.resolve other := by
    intro operand hmem
    apply agree.resolve
    intro name hname
    exact hreads name (List.mem_filterMap.mpr ⟨operand, hmem, hname⟩)
  have hinput : ∀ operand ∈ call.input.toList, operand.resolve root = operand.resolve other :=
    fun operand hmem => hoperand operand (List.mem_append_left _ hmem)
  have hnamed : ∀ binding ∈ call.named,
      binding.value.resolve root = binding.value.resolve other :=
    fun binding hmem => hoperand binding.value
      (List.mem_append_right _ (List.mem_map_of_mem hmem))
  rw [Call.bound, Call.bound]
  congr 1
  · exact List.map_congr_left fun operand hmem => by rw [hinput operand hmem]
  · exact List.map_congr_left fun binding hmem => by rw [hnamed binding hmem]

end

/-- The functions of calls depend, of all their variables, on the arguments of their own call alone:
whatever the root, equal arguments make for the same course. -/
def Lookup.ReadsArguments (lookup : Lookup σ) (config : Config) (calls : List Call) : Prop :=
  ∀ call ∈ calls, ∀ found, lookup call.function.plugin call.function.function = some found →
    ∀ root other, call.bound root = call.bound other →
      found.function.invoke ⟨call.arguments root, config⟩ =
        found.function.invoke ⟨call.arguments other, config⟩

/-- Starts of one function for one of the calls, with the same arguments over either root. -/
def Start.SameCall (config : Config) (calls : List Call) (root other : Variables)
    (first second : Start σ) : Prop :=
  first.function = second.function ∧ ∃ call ∈ calls,
    call.bound root = call.bound other ∧
      first.context = ⟨root.extend (call.bound root), config⟩ ∧
      second.context = ⟨other.extend (call.bound other), config⟩

section

variable {lookup : Lookup σ} {config : Config} {root other : Variables}

/-- Where a call binds the same arguments, it comes to the same if its function depends on these
alone. -/
theorem Call.corresponds_of_bound {calls : List Call}
    (hreads : lookup.ReadsArguments config calls) {call : Call} (hmem : call ∈ calls)
    (hbound : call.bound root = call.bound other) :
    Call.Corresponds Eq (Start.SameCall config calls root other) ⟨config, lookup, root⟩
      ⟨config, lookup, other⟩ call call := by
  cases hfound : lookup call.function.plugin call.function.function with
  | none => exact .notFound hfound hfound rfl
  | some found =>
      refine .found hfound hfound (hreads call hmem found hfound root other hbound)
        ⟨rfl, call, hmem, hbound, ?_, ?_⟩
      · rw [Call.start, Call.arguments_eq_extend]
      · rw [Call.start, Call.arguments_eq_extend]

/-- Blocks that come to the same texts and bind the same arguments correspond. -/
theorem Block.corresponds_of_bound {blocks : List Block}
    (hreads : lookup.ReadsArguments config (blocks.filterMap Block.call?))
    (htext : ∀ block ∈ blocks, block.text? root = block.text? other)
    (hbound : ∀ call ∈ blocks.filterMap Block.call?, call.bound root = call.bound other)
    {block : Block} (hblock : block ∈ blocks) :
    Block.Corresponds Eq (Start.SameCall config (blocks.filterMap Block.call?) root other)
      ⟨config, lookup, root⟩ ⟨config, lookup, other⟩ block block := by
  cases block with
  | call content call =>
      have hmem : call ∈ blocks.filterMap Block.call? := List.mem_filterMap.mpr ⟨_, hblock, rfl⟩
      exact .call (Call.corresponds_of_bound hreads hmem (hbound call hmem))
  | _ => exact .text rfl (htext _ hblock).symm

end

/-- The parameters of a template are all that it reads. Where the variables of two callers agree on
the parameters, also in which of them are set, every block that calls nothing comes to the same text
and every call binds the same arguments. If the functions of these calls depend on the arguments of
their own call alone, both renderings have the same outcome and make the same calls. -/
theorem parameters_cover_reads (template : Template) (parameters : List Parameter)
    (hparameters : template.parameters = .ok parameters) (vars vars' : Variables)
    (hagree : ∀ parameter ∈ parameters, vars.get? parameter.name = vars'.get? parameter.name) :
    ∃ blocks, template.blocks = .ok blocks ∧
      let root := template.config.seed vars
      let other := template.config.seed vars'
      let calls := blocks.filterMap Block.call?
      (∀ block ∈ blocks, block.text? root = block.text? other) ∧
      (∀ call ∈ calls, call.bound root = call.bound other) ∧
      ∀ (σ : Type) (lookup : Lookup σ) (world : World σ),
        lookup.ReadsArguments template.config calls →
          (template.render lookup vars world).1 = (template.render lookup vars' world).1 ∧
          World.Alike (template.render lookup vars world).2
            (template.render lookup vars' world).2 ∧
          List.Forall₂ (Start.SameCall template.config calls root other)
            (template.started lookup vars world) (template.started lookup vars' world) := by
  obtain ⟨blocks, hblocks, -⟩ := Template.parameters_eq_ok.mp hparameters
  -- what is listed is closed under other spellings, and holds all names that have a default
  have agree : Variables.Agree
      (fun name => ∃ parameter ∈ parameters, parameter.name.sameName name = true) vars vars' := by
    rintro name ⟨parameter, hmem, hname⟩
    rw [← vars.get?_congr hname, ← vars'.get?_congr hname]
    exact hagree parameter hmem
  have hroot := agree.seed (List.forall₂_same.mpr fun parameter hmem =>
    ⟨⟨parameter, Template.mem_parameters_of_declared hparameters hmem, Text.sameName_refl _⟩,
      Text.sameName_refl _, rfl⟩)
  have hreads {block : Block} (hblock : block ∈ blocks) {name : Text}
      (hname : name ∈ block.reads) :=
    Template.exists_parameter_of_reads hparameters hblocks hblock hname
  have htext : ∀ block ∈ blocks,
      block.text? (template.config.seed vars) = block.text? (template.config.seed vars') :=
    fun block hblock => hroot.text? fun name hname => hreads hblock hname
  have hbound : ∀ call ∈ blocks.filterMap Block.call?,
      call.bound (template.config.seed vars) = call.bound (template.config.seed vars') := by
    intro call hmem
    obtain ⟨block, hblock, hcall⟩ := List.mem_filterMap.mp hmem
    cases block with
    | call content call =>
        cases hcall
        exact hroot.bound fun name hname => hreads hblock hname
    | _ => cases hcall
  refine ⟨blocks, hblocks, htext, hbound, fun σ lookup world hlookup => ?_⟩
  obtain ⟨hresult, hworld, hstarts⟩ := Config.render_of_corresponds
    (List.forall₂_same.mpr fun block hblock =>
      Block.corresponds_of_bound hlookup htext hbound hblock) (.refl world)
  rw [Template.started_eq, Template.started_eq, Template.render_eq, Template.render_eq, hblocks]
  dsimp only
  rw [hresult.eq]
  exact ⟨rfl, hworld, hstarts⟩

/-- The template `$D$a{{f $X}}` with a default for `d`: the callers agree on `d`, which neither has
set, on `a` and on `x`, and each has set something else that nothing reads. -/
theorem parameters_cover_reads_default :
    ∃ (template : Template) (parameters : List Parameter) (vars vars' : Variables)
      (lookup : Lookup Unit) (world : World Unit),
      template.source = "$D$a\x7b\x7bf $X\x7d\x7d".toList ∧
      template.config.parameters = [⟨['d'], [], some ['v']⟩] ∧
      template.parameters = .ok parameters ∧
      parameters.map Parameter.name = [['d'], ['a'], ['X']] ∧
      vars.toList = [(['A'], ['1']), (['s'], ['3']), (['x'], ['2'])] ∧
      vars'.toList = [(['x'], ['2']), (['a'], ['1']), (['t'], ['4'])] ∧
      (∀ parameter ∈ parameters,
        vars.get? parameter.name = vars'.get? parameter.name) ∧
      (∃ blocks, template.blocks = .ok blocks ∧
        lookup.ReadsArguments template.config (blocks.filterMap Block.call?)) ∧
      (template.render lookup vars world).1 = (template.render lookup vars' world).1 ∧
      (template.render lookup vars world).1.toOption = some ['v', '1', '2'] := by
  let config : Config := { Config.standard with parameters := [⟨['d'], [], some ['v']⟩] }
  let template : Template := ⟨"$D$a\x7b\x7bf $X\x7d\x7d".toList, config⟩
  let call : Call := ⟨⟨none, ['f']⟩, some (.var ['X']), []⟩
  let blocks : List Block := [.var ['D'], .var ['a'], .call "f $X".toList call]
  let parameters : List Parameter := [⟨['d'], [], some ['v']⟩, .named ['a'], .named ['X']]
  let vars : Variables := .ofList [(['A'], ['1']), (['s'], ['3']), (['x'], ['2'])]
  let vars' : Variables := .ofList [(['x'], ['2']), (['a'], ['1']), (['t'], ['4'])]
  let lookup : Lookup Unit := fun _ _ =>
    some ⟨[], ⟨['f'], [], fun context => .finish (.ok context.vars.input)⟩, []⟩
  have hblocks : template.blocks = .ok blocks := by
    decide +kernel
  have hparameters : template.parameters = .ok parameters :=
    Template.parameters_eq_ok.mpr ⟨blocks, hblocks, rfl⟩
  have hagree : ∀ parameter ∈ parameters,
      vars.get? parameter.name = vars'.get? parameter.name := by
    simp only [parameters, List.forall_mem_cons]
    exact ⟨rfl, rfl, rfl, List.forall_mem_nil _⟩
  have hinput (root : Variables) : (call.arguments root).input = (root.get? ['X']).getD [] := by
    have harguments : call.arguments root =
        root.set Variables.inputName ((root.get? ['X']).getD []) := rfl
    rw [Variables.input, harguments, Variables.get?_set, Text.sameName_refl]
    rfl
  have hreads : lookup.ReadsArguments config (blocks.filterMap Block.call?) := by
    intro other hmem found hfound root second hbound
    obtain rfl := List.mem_singleton.mp hmem
    cases hfound
    have hvalue : (root.get? ['X']).getD [] = (second.get? ['X']).getD [] := by
      simpa [call, Call.bound, Operand.resolve] using hbound
    exact congrArg (fun text => Task.finish (.ok text))
      ((hinput root).trans (hvalue.trans (hinput second).symm))
  obtain ⟨others, hothers, -, -, hruns⟩ :=
    parameters_cover_reads template parameters hparameters vars vars' hagree
  obtain rfl := Except.ok.inj (hothers.symm.trans hblocks)
  obtain ⟨hresult, -, -⟩ := hruns Unit lookup ⟨(), false, []⟩ hreads
  refine ⟨template, parameters, vars, vars', lookup, _, rfl, rfl, hparameters, rfl, rfl, rfl,
    hagree, ⟨_, hblocks, hreads⟩, hresult, ?_⟩
  rw [Template.render_eq, hblocks]
  rfl

end Stencil
