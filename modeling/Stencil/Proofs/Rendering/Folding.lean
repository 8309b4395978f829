import Mathlib.Data.List.Perm.Basic
import Stencil.Proofs.Rendering.Defaults
import Stencil.Proofs.Rendering.Likeness

/-! # Variables folded into text

Blocks can be rendered in two phases: their variables are first replaced by the texts they
stand for, and the blocks that result are rendered. Where the caller has set whatever has a
default, this comes to the same as rendering the blocks at once. A variable that is not set is
reported when it is folded, and not again.
-/

namespace Stencil

namespace Block

/-- A block and what folding makes of it: a variable becomes its text, and any other block stays. -/
inductive Folds (vars : Variables) : Block → Block → Prop where
  | var (name : Text) : Folds vars (.var name) (.text ((vars.get? name).getD []))
  | other {block : Block} (hother : ∀ name, block ≠ .var name) : Folds vars block block

theorem folds_substitute (vars : Variables) (block : Block) :
    Folds vars block (block.substitute vars) := by
  cases block with
  | var name => exact .var name
  | _ => exact .other nofun

theorem substitute_substitute (first second : Variables) (block : Block) :
    (block.substitute first).substitute second = block.substitute first := by
  cases block <;> rfl

/-- Under the variables that a block was folded with, it comes to the same as before. -/
theorem alike_substitute (vars : Variables) (block : Block) :
    Block.Alike vars vars (block.substitute vars) block := by
  cases block with
  | var name => exact .text rfl rfl
  | _ => exact .refl vars _

theorem substitutionEvents_substitute (first second : Variables) (block : Block) :
    substitutionEvents second (block.substitute first) = [] := by
  cases block <;> rfl

/-- Blocks that were folded before are folded to themselves, and nothing is reported of them. -/
theorem substituteAll_substituteAll (first second : Variables) (blocks : List Block) :
    substituteAll second (substituteAll first blocks).1 = ((substituteAll first blocks).1, []) := by
  simp only [substituteAll, List.map_map, List.flatMap_map, substitutionEvents_substitute]
  refine Prod.ext ?_ (List.flatMap_eq_nil_iff.mpr fun block _ => rfl)
  exact List.map_congr_left fun block _ => block.substitute_substitute first second

/-- What folding reports of a block is what rendering it then no longer does. -/
theorem substitutionEvents_append_events (vars : Variables) (block : Block) :
    substitutionEvents vars block ++ (block.substitute vars).events vars = block.events vars := by
  cases block with
  | var name => exact List.append_nil _
  | _ => rfl

/-- Calls aside, what folding reports and what is left to report when the folded blocks are rendered
are together what the blocks report when they are rendered at once. -/
theorem perm_substituteAll_events (vars : Variables) (blocks : List Block) :
    ((substituteAll vars blocks).2 ++ (substituteAll vars blocks).1.flatMap (events vars)).Perm
      (blocks.flatMap (events vars)) := by
  have hperm := List.flatMap_append_perm blocks (substitutionEvents vars)
    fun block => (block.substitute vars).events vars
  simp only [substitutionEvents_append_events] at hperm
  rwa [substituteAll, List.flatMap_map]

end Block

/-- Folding variables into text first and rendering then comes to the same output or the same
error as rendering at once, and starts the same functions with the same variables, if all that has
a default is set. Folding changes nothing but variables, in place, and leaves none to be folded. -/
theorem folding_agrees :
    (∀ (σ : Type) (config : Config) (lookup : Lookup σ) (vars : Variables) (blocks : List Block)
        (world : World σ),
      (∀ parameter ∈ config.parameters, parameter.default ≠ none →
        vars.contains parameter.name = true) →
      let folded := blocks.map (Block.substitute vars)
      (config.render lookup vars folded world).1 = (config.render lookup vars blocks world).1 ∧
        World.Alike (config.render lookup vars folded world).2
          (config.render lookup vars blocks world).2 ∧
        config.started lookup vars folded world = config.started lookup vars blocks world) ∧
    (∀ (blocks : List Block) (first second : Variables),
      (blocks.map (Block.substitute first)).map (Block.substitute second) =
        blocks.map (Block.substitute first)) ∧
    ∀ (blocks : List Block) (vars : Variables),
      List.Forall₂ (Block.Folds vars) blocks (blocks.map (Block.substitute vars)) := by
  refine ⟨?_, ?_, ?_⟩
  · intro σ config lookup vars blocks world hset folded
    apply config.render_alike lookup _ (.refl world)
    rw [config.seed_eq_self hset, List.forall₂_map_left_iff, List.forall₂_same]
    exact fun block _ => block.alike_substitute vars
  · intro blocks first second
    exact congrArg Prod.fst (Block.substituteAll_substituteAll first second blocks)
  · intro blocks vars
    rw [List.forall₂_map_right_iff, List.forall₂_same]
    exact fun block _ => block.folds_substitute vars

/-- A function that answers with its input. -/
def Function.echoing : Function Unit where
  name := ['f']
  description := []
  invoke context := .finish (.ok context.vars.input)

/-- A block of every kind, where `Y` has a default and the caller has set `y` to the text `$z`: the
variable is folded, the argument of the call is not, and both stand for what the caller has set. -/
theorem folding_agrees_every_kind :
    ∃ (config : Config) (lookup : Lookup Unit) (vars : Variables) (blocks : List Block)
      (world : World Unit) (start : Start Unit),
      config.parameters = [⟨['Y'], [], some ['d']⟩] ∧ vars.toList = [(['y'], ['$', 'z'])] ∧
      (∀ parameter ∈ config.parameters, parameter.default ≠ none →
        vars.contains parameter.name = true) ∧
      blocks = [.text ['a'], .var ['y'], .literal ⟨.single, ['l']⟩, .binding ⟨['n'], .var ['y']⟩,
        .function ⟨none, ['f']⟩,
        .call ['f', ' ', '$', 'y'] ⟨⟨none, ['f']⟩, some (.var ['y']), []⟩] ∧
      (blocks.map (Block.substitute vars))[1]? = some (.text ['$', 'z']) ∧
      (config.render lookup vars blocks world).1 =
        .ok ['a', '$', 'z', 'l', '$', 'z', 'f', '$', 'z'] ∧
      (config.render lookup vars (blocks.map (Block.substitute vars)) world).1 =
        (config.render lookup vars blocks world).1 ∧
      config.started lookup vars (blocks.map (Block.substitute vars)) world = [start] ∧
      config.started lookup vars blocks world = [start] := by
  let config : Config := { Config.standard with parameters := [⟨['Y'], [], some ['d']⟩] }
  let lookup : Lookup Unit := fun _ _ => some ⟨[], .echoing, []⟩
  let vars : Variables := .ofList [(['y'], ['$', 'z'])]
  let blocks : List Block := [.text ['a'], .var ['y'], .literal ⟨.single, ['l']⟩,
    .binding ⟨['n'], .var ['y']⟩, .function ⟨none, ['f']⟩,
    .call ['f', ' ', '$', 'y'] ⟨⟨none, ['f']⟩, some (.var ['y']), []⟩]
  have hset : ∀ parameter ∈ config.parameters, parameter.default ≠ none →
      vars.contains parameter.name = true := by
    intro parameter hparameter _
    rw [List.mem_singleton.mp hparameter]
    rfl
  obtain ⟨hresult, -, hstarted⟩ :=
    folding_agrees.1 Unit config lookup vars blocks ⟨(), false, []⟩ hset
  exact ⟨config, lookup, vars, blocks, _, _, rfl, rfl, hset, rfl, rfl, rfl, hresult,
    hstarted.trans rfl, rfl⟩

end Stencil
