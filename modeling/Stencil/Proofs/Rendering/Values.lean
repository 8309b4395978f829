import Stencil.Proofs.Rendering.Folding
import Stencil.Proofs.Rendering.Isolation
import Stencil.Proofs.Rendering.Sequence
import Stencil.Proofs.Variables.Lookup

/-! # Values are data

What a template calls is settled when it is read. The values of variables are put where the
variables stand, as texts or as arguments, and are never read as templates themselves. That
holds for a rendering at once, and for one in two phases.
-/

namespace Stencil

variable {σ : Type}

/-! ## What can be started -/

/-- The functions that the calls of a template find, in order. -/
def Template.targets (template : Template) (lookup : Lookup σ) : List (Function σ) :=
  match template.blocks with
  | .error _ => []
  | .ok blocks => blocks.filterMap (Block.target lookup)

/-- Blocks start the functions that their calls find, in order and as far as the run comes. -/
theorem Config.map_function_started (config : Config) (lookup : Lookup σ) (vars : Variables)
    (blocks : List Block) (world : World σ) :
    (config.started lookup vars blocks world).map Start.function <+:
      blocks.filterMap (Block.target lookup) := by
  obtain ⟨result, starts, next, ends⟩ :=
    Block.exists_ends config lookup (config.seed vars) world blocks
  rw [ends.started]
  exact ends.map_function

theorem Template.map_function_started (template : Template) (lookup : Lookup σ)
    (vars : Variables) (world : World σ) :
    (template.started lookup vars world).map Start.function <+: template.targets lookup := by
  rw [started_eq, targets]
  cases template.blocks with
  | error refusal => exact List.prefix_rfl
  | ok blocks => exact template.config.map_function_started lookup vars blocks world

/-- Folding variables into text leaves the calls as they are. -/
theorem Block.filterMap_call?_substitute (vars : Variables) (blocks : List Block) :
    (blocks.map (Block.substitute vars)).filterMap Block.call? =
      blocks.filterMap Block.call? := by
  rw [List.filterMap_map]
  apply List.filterMap_congr
  intro block _
  cases block <;> rfl

theorem Block.filterMap_target_substitute (lookup : Lookup σ) (vars : Variables)
    (blocks : List Block) :
    (blocks.map (Block.substitute vars)).filterMap (Block.target lookup) =
      blocks.filterMap (Block.target lookup) := by
  rw [funext (Block.target_eq lookup), ← List.filterMap_filterMap,
    filterMap_call?_substitute, List.filterMap_filterMap]

/-! ## Where values go -/

/-- Blocks are rendered up to one of them, then this one, and then the rest. -/
theorem Config.render_split (config : Config) (lookup : Lookup σ) (vars : Variables)
    (before : List Block) (block : Block) (after : List Block) (world : World σ) :
    config.render lookup vars (before ++ block :: after) world =
      Rendering.andThen (config.render lookup vars before world) fun middle =>
        Rendering.andThen (block.render config lookup (config.seed vars) middle)
          (config.render lookup vars after) := by
  rw [render, Block.renderAll_append, funext (Block.renderAll_cons config lookup _ block after)]
  rfl

namespace Call

/-- The operands of a call with the names they are assigned to. -/
def assigned (call : Call) : List (Text × Operand) :=
  call.input.toList.map (fun operand => (Variables.inputName, operand)) ++
    call.named.map fun binding => (binding.name, binding.value)

theorem bound_eq (call : Call) (root : Variables) :
    call.bound root = call.assigned.map fun pair => (pair.1, pair.2.resolve root) := by
  simp [bound, assigned, Function.comp_def]

/-- The last operand that is assigned to a name is what the function finds there. -/
theorem get?_of_last {call : Call} {before after : List (Text × Operand)} {name : Text}
    {operand : Operand} (hassigned : call.assigned = before ++ (name, operand) :: after)
    (hlast : ∀ pair ∈ after, pair.1.sameName name = false) (root : Variables) :
    (root.extend (call.bound root)).get? name = some (operand.resolve root) := by
  rw [bound_eq, hassigned, List.map_append, List.map_cons]
  apply Variables.get?_extend_of_last
  rw [List.forall_mem_map]
  exact hlast

end Call

/-- Whatever the variables hold, a template starts functions of one list, in order from the first.
A variable among the blocks comes to its value as it stands, and an argument hands it over as it
stands. All of this holds too if the variables are folded into text before. -/
theorem values_are_data :
    (∀ (σ : Type) (template : Template) (lookup : Lookup σ),
      (∀ (vars : Variables) (world : World σ),
        (template.started lookup vars world).map Start.function <+: template.targets lookup) ∧
      ∀ blocks, template.blocks = .ok blocks →
        ∀ (config : Config) (folding vars : Variables) (world : World σ),
          (config.started lookup vars (blocks.map (Block.substitute folding)) world).map
            Start.function <+: template.targets lookup) ∧
    (∀ (σ : Type) (config : Config) (lookup : Lookup σ) (vars : Variables)
        (before : List Block) (name : Text) (after : List Block) (world : World σ),
      (config.render lookup vars (before ++ .var name :: after) world =
        Rendering.andThen (config.render lookup vars before world) fun middle =>
          Rendering.andThen
            (.ok (((config.seed vars).get? name).getD []),
              middle.report (Event.ofRead (config.seed vars) name))
            (config.render lookup vars after)) ∧
      ∀ folding : Variables,
        config.render lookup vars
            ((before ++ .var name :: after).map (Block.substitute folding)) world =
          Rendering.andThen
            (config.render lookup vars (before.map (Block.substitute folding)) world)
            fun middle => Rendering.andThen (.ok ((folding.get? name).getD []), middle)
              (config.render lookup vars (after.map (Block.substitute folding)))) ∧
    ∀ (σ : Type) (config : Config) (lookup : Lookup σ) (folding vars : Variables)
        (blocks : List Block) (world : World σ) (k : Nat) (start : Start σ),
      (config.started lookup vars blocks world)[k]? = some start ∨
          (config.started lookup vars (blocks.map (Block.substitute folding)) world)[k]? =
            some start →
        ∃ call, (blocks.filterMap Block.call?)[k]? = some call ∧
          start.context =
            ⟨(config.seed vars).extend (call.bound (config.seed vars)), config⟩ ∧
          ∀ (before after : List (Text × Operand)) (argument name : Text),
            call.assigned = before ++ (argument, .var name) :: after →
              (∀ pair ∈ after, pair.1.sameName argument = false) →
              start.context.vars.get? argument =
                some (((config.seed vars).get? name).getD []) := by
  refine ⟨?_, ?_, ?_⟩
  · intro σ template lookup
    refine ⟨template.map_function_started lookup, ?_⟩
    intro blocks hblocks config folding vars world
    have hstarted := config.map_function_started lookup vars
      (blocks.map (Block.substitute folding)) world
    rw [Block.filterMap_target_substitute] at hstarted
    rw [Template.targets, hblocks]
    exact hstarted
  · intro σ config lookup vars before name after world
    refine ⟨config.render_split lookup vars before _ after world, fun folding => ?_⟩
    rw [List.map_append, List.map_cons, config.render_split]
    congr 1
    funext middle
    exact congrArg (fun next => Rendering.andThen (_, next) _) middle.report_nil
  · intro σ config lookup folding vars blocks world k start hstart
    have hcontext : ∃ call, (blocks.filterMap Block.call?)[k]? = some call ∧
        start.context = ⟨(config.seed vars).extend (call.bound (config.seed vars)), config⟩ := by
      rcases hstart with hstart | hstart
      · exact Config.context_of_started hstart
      · rw [← Block.filterMap_call?_substitute folding]
        exact Config.context_of_started hstart
    obtain ⟨call, hcall, hcontext⟩ := hcontext
    refine ⟨call, hcall, hcontext, fun before after argument name hassigned hlast => ?_⟩
    rw [hcontext]
    exact Call.get?_of_last hassigned hlast _

/-- In `$x{{f $y}}` neither the call that `x` holds nor the braces and the `$` that `y` holds are
read: one function is started, and all that both hold is in the output. -/
theorem values_are_data_braces :
    ∃ (template : Template) (lookup : Lookup Unit) (vars : Variables) (call : Call)
      (blocks : List Block) (world : World Unit) (start : Start Unit),
      template.source = ['$', 'x'] ++ opener ++ ['f', ' ', '$', 'y'] ++ closer ∧
      vars.toList = [(['x'], opener ++ ['f'] ++ closer), (['y'], closer ++ ['$', 'x'] ++ ['"'])] ∧
      template.blocks = .ok blocks ∧
      blocks = [] ++ .var ['x'] :: [.call ['f', ' ', '$', 'y'] call] ∧
      (template.started lookup vars world).map Start.function <+: template.targets lookup ∧
      (template.config.started lookup vars (blocks.map (Block.substitute vars)) world).map
        Start.function <+: template.targets lookup ∧
      template.targets lookup = [.echoing] ∧
      (template.config.render lookup vars blocks world).1 =
        .ok (opener ++ ['f'] ++ closer ++ (closer ++ ['$', 'x'] ++ ['"'])) ∧
      (template.config.started lookup vars blocks world)[0]? = some start ∧
      call.assigned = [] ++ (Variables.inputName, .var ['y']) :: [] ∧
      start.context.vars.get? Variables.inputName = some (closer ++ ['$', 'x'] ++ ['"']) := by
  let template : Template :=
    ⟨['$', 'x'] ++ opener ++ ['f', ' ', '$', 'y'] ++ closer, .standard⟩
  let lookup : Lookup Unit := fun _ _ => some ⟨[], .echoing, []⟩
  let vars : Variables :=
    .ofList [(['x'], opener ++ ['f'] ++ closer), (['y'], closer ++ ['$', 'x'] ++ ['"'])]
  let call : Call := ⟨⟨none, ['f']⟩, some (.var ['y']), []⟩
  let blocks : List Block := [.var ['x'], .call ['f', ' ', '$', 'y'] call]
  let world : World Unit := ⟨(), false, []⟩
  have hblocks : template.blocks = .ok blocks := by
    rw [Template.blocks]
    decide +kernel
  have htargets : template.targets lookup = [.echoing] := by
    rw [Template.targets, hblocks]
    rfl
  obtain ⟨hstarted, hrender, hcontext⟩ := values_are_data
  obtain ⟨hdirect, hfolded⟩ := hstarted Unit template lookup
  have houtput := congrArg Prod.fst
    (hrender Unit template.config lookup vars [] ['x'] [.call ['f', ' ', '$', 'y'] call] world).1
  have hstart : (template.config.started lookup vars blocks world)[0]? = some _ := rfl
  obtain ⟨found, hfound, -, hargument⟩ :=
    hcontext Unit template.config lookup vars vars blocks world 0 _ (.inl hstart)
  cases hfound
  exact ⟨template, lookup, vars, call, blocks, world, _, rfl, rfl, hblocks, rfl,
    hdirect vars world, hfolded blocks hblocks template.config vars vars world, htargets,
    houtput.trans rfl, hstart, rfl, hargument [] [] _ _ rfl (List.forall_mem_nil _)⟩

end Stencil
