import Stencil.Proofs.Result
import Stencil.Proofs.Variables.Lookup
import Stencil.Template.Basic

/-! # The parameters of a template

The parameters of a template are the declared ones and, after them, what its blocks read. Every
name that a block reads is the name of a parameter, in one spelling or another.
-/

namespace Stencil

namespace Parameter

variable {parameters : List Parameter} {name : Text}

theorem mem_mention {parameter : Parameter} (h : parameter ∈ parameters) (name : Text) :
    parameter ∈ mention parameters name := by
  rw [mention]
  split
  next => exact h
  next => exact List.mem_append_left _ h

theorem exists_mem_mention (parameters : List Parameter) (name : Text) :
    ∃ parameter ∈ mention parameters name, parameter.name.sameName name = true := by
  rw [mention]
  by_cases hany : parameters.any (fun parameter => parameter.name.sameName name) = true
  · rw [if_pos hany]
    exact List.any_eq_true.mp hany
  · rw [if_neg hany]
    exact ⟨.named name, List.mem_append_right _ List.mem_cons_self, Text.sameName_refl name⟩

/-- Parameters stay when names are mentioned. -/
theorem mem_foldl_mention {parameter : Parameter} (h : parameter ∈ parameters)
    (names : List Text) : parameter ∈ names.foldl mention parameters := by
  induction names generalizing parameters with
  | nil => exact h
  | cons first rest ih => exact ih (mem_mention h first)

/-- Each name that is mentioned is that of a parameter. -/
theorem exists_mem_foldl_mention {names : List Text} (h : name ∈ names) :
    ∃ parameter ∈ names.foldl mention parameters, parameter.name.sameName name = true := by
  induction names generalizing parameters with
  | nil => cases h
  | cons first rest ih =>
      rcases List.mem_cons.mp h with rfl | hrest
      · obtain ⟨parameter, hmem, hname⟩ := exists_mem_mention parameters name
        exact ⟨parameter, mem_foldl_mention hmem rest, hname⟩
      · exact ih hrest

end Parameter

namespace Template

variable {template : Template} {parameters : List Parameter}

theorem parameters_eq_ok :
    template.parameters = .ok parameters ↔
      ∃ blocks, template.blocks = .ok blocks ∧
        (blocks.flatMap Block.reads).foldl Parameter.mention template.config.parameters =
          parameters := by
  rw [Template.parameters, Result.bind_eq_ok]
  simp only [pure, Except.pure, Except.ok.injEq]

/-- The declared parameters are among the parameters. -/
theorem mem_parameters_of_declared (h : template.parameters = .ok parameters)
    {parameter : Parameter} (hmem : parameter ∈ template.config.parameters) :
    parameter ∈ parameters := by
  obtain ⟨blocks, -, rfl⟩ := parameters_eq_ok.mp h
  exact Parameter.mem_foldl_mention hmem _

/-- What a block reads is a parameter. -/
theorem exists_parameter_of_reads (h : template.parameters = .ok parameters) {blocks : List Block}
    (hblocks : template.blocks = .ok blocks) {block : Block} (hblock : block ∈ blocks)
    {name : Text} (hname : name ∈ block.reads) :
    ∃ parameter ∈ parameters, parameter.name.sameName name = true := by
  obtain ⟨others, hothers, rfl⟩ := parameters_eq_ok.mp h
  obtain rfl := Except.ok.inj (hothers.symm.trans hblocks)
  exact Parameter.exists_mem_foldl_mention (List.mem_flatMap.mpr ⟨block, hblock, hname⟩)

end Template

end Stencil
