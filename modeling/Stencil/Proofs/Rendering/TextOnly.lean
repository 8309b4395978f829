import Stencil.Function.TextPlugin
import Stencil.Proofs.Registry.Additions
import Stencil.Proofs.Registry.Agreement

/-! # Rendering with the text plugin alone

The functions of the text plugin neither fail nor cancel anything. So a rendering that has no other
plugin is cut short by nothing but a call of a function that the plugin does not have. What it comes
to depends on the blocks and the variables, and neither on a state that functions share nor on
what has been reported before.
-/

namespace Stencil

variable {σ : Type}

/-! ## The functions that are found -/

/-- A function's name leads into the text plugin: it names that plugin, in whatever case, or
none. -/
def FunctionRef.AsksText (ref : FunctionRef) : Prop :=
  Registry.Unqualified ref.plugin ∨ ∃ spelling ∈ ref.plugin, Text.Recased "text".toList spelling

instance (ref : FunctionRef) : Decidable ref.AsksText :=
  inferInstanceAs (Decidable (_ ∨ _))

namespace TextOperation

/-- The operation that a function's name leads to where the text plugin is the only one. -/
def find? (ref : FunctionRef) : Option TextOperation :=
  if ref.AsksText then all.find? fun operation => operation.name.sameName ref.function else none

theorem get?_text (name : Text) :
    (Plugin.text σ).get? name =
      (all.find? fun operation => operation.name.sameName name).map (toFunction σ) := by
  have hfunctions : (Plugin.text σ).functions = all.map (toFunction σ) := rfl
  rw [Plugin.get?, hfunctions, List.find?_map]
  rfl

/-- Where the text plugin is the only one, what is found is one of its operations. -/
theorem lookup_text (σ : Type) (ref : FunctionRef) :
    (Registry.empty.add (.text σ)).lookup ref.plugin ref.function =
      (find? ref).map fun operation => ⟨"text".toList, operation.toFunction σ, []⟩ := by
  have hasked : (Plugin.text σ).Asked ref.plugin ↔ ref.AsksText := Iff.rfl
  rw [Registry.lookup_alone, get?_text, find?]
  simp only [hasked]
  split
  next => exact Option.map_map _ _ _
  next => rfl

end TextOperation

/-! ## Blocks -/

namespace Block

/-- What a block comes to where the text plugin is the only one. The call of a function that it does
not have comes to nothing. -/
def textOnly? (root : Variables) : Block → Option Text
  | .call _ c =>
    (TextOperation.find? c.function).map fun operation => operation.apply (c.arguments root)
  | block => block.text? root

/-- The block calls a function that the text plugin does not have. -/
def Foreign (block : Block) : Prop :=
  ∃ call, block.call? = some call ∧ TextOperation.find? call.function = none

theorem textOnly?_eq_none_iff {root : Variables} {block : Block} :
    block.textOnly? root = none ↔ block.Foreign := by
  cases block with
  | call content call => simp [textOnly?, Foreign, call?]
  | _ => simp [textOnly?, text?, Foreign, call?]

section

variable {root : Variables} {world : World σ}

/-- A block that comes to something is rendered to it, and cancels nothing. -/
theorem renders_of_textOnly? {block : Block} {output : Text}
    (h : block.textOnly? root = some output) (config : Config) (hlive : world.cancelled = false) :
    ∃ starts next, Renders config (Registry.empty.add (.text σ)).lookup root world block
      (.ok output) starts next ∧ next.cancelled = false := by
  cases block with
  | text content =>
      cases h
      exact ⟨_, _, .text world _, hlive⟩
  | var name =>
      cases h
      exact ⟨_, _, .var world name, hlive⟩
  | literal literal =>
      cases h
      exact ⟨_, _, .literal world literal, hlive⟩
  | binding binding =>
      cases h
      exact ⟨_, _, .binding world binding, hlive⟩
  | function ref =>
      cases h
      exact ⟨_, _, .function world ref, hlive⟩
  | call content call =>
      obtain ⟨operation, hoperation, rfl⟩ := Option.map_eq_some_iff.mp h
      have hfound := TextOperation.lookup_text σ call.function
      rw [hoperation] at hfound
      -- the call is over at once, in the world in which it was started
      exact ⟨_, _, .returned hlive hfound rfl, hlive⟩

/-- A block that comes to nothing fails for the function that it calls. -/
theorem renders_of_foreign {content : Text} {call : Call} (h : (Block.call content call).Foreign)
    (config : Config) (hlive : world.cancelled = false) :
    Renders config (Registry.empty.add (.text σ)).lookup root world (.call content call)
      (.error (.functionNotFound call.function)) [] world := by
  obtain ⟨other, hother, hnone⟩ := h
  cases hother
  have hlookup := TextOperation.lookup_text σ call.function
  rw [hnone] at hlookup
  exact .notFound hlive hlookup

theorem completes_textOnly {blocks : List Block} {outputs : List Text}
    (h : List.Forall₂ (fun block output => block.textOnly? root = some output) blocks outputs)
    (config : Config) (hlive : world.cancelled = false) :
    ∃ starts next, Completes config (Registry.empty.add (.text σ)).lookup root world blocks
      outputs starts next ∧ next.cancelled = false := by
  induction h generalizing world with
  | nil => exact ⟨_, _, .nil world, hlive⟩
  | cons hfirst _ ih =>
      obtain ⟨starts, middle, head, hmiddle⟩ := renders_of_textOnly? hfirst config hlive
      obtain ⟨more, next, tail, hnext⟩ := ih hmiddle
      exact ⟨_, _, .cons head tail, hnext⟩

/-- Blocks that call no function but those of the text plugin all come to something. -/
theorem exists_textOnly {blocks : List Block} (root : Variables)
    (h : ∀ block ∈ blocks, ¬ block.Foreign) :
    ∃ outputs, List.Forall₂ (fun block output => block.textOnly? root = some output) blocks
      outputs := by
  induction blocks with
  | nil => exact ⟨[], .nil⟩
  | cons block rest ih =>
      obtain ⟨hblock, hrest⟩ := List.forall_mem_cons.mp h
      obtain ⟨outputs, houtputs⟩ := ih hrest
      obtain ⟨output, houtput⟩ := Option.ne_none_iff_exists'.mp (mt textOnly?_eq_none_iff.mp hblock)
      exact ⟨output :: outputs, .cons houtput houtputs⟩

/-- Blocks are stopped at the first one that calls a function which the text plugin does not
have. -/
theorem ends_of_first_foreign {blocks after : List Block} {content : Text} {call : Call}
    (first : First Foreign blocks (.call content call) after) (config : Config)
    (hlive : world.cancelled = false) :
    ∃ starts next, Ends config (Registry.empty.add (.text σ)).lookup root world blocks
      (.error (.functionNotFound call.function)) starts next := by
  obtain ⟨hforeign, done, rfl, hdone⟩ := first
  obtain ⟨outputs, houtputs⟩ := exists_textOnly root hdone
  obtain ⟨starts, middle, run, hmiddle⟩ := completes_textOnly houtputs config hlive
  exact ⟨_, _, .stopped run (renders_of_foreign hforeign config hmiddle)⟩

end

end Block

/-! ## Templates -/

namespace Template

/-- What a template comes to where the text plugin is the only one. -/
inductive TextOnly (template : Template) (vars : Variables) :
    Except Template.Error Text → Prop where
  | refused {refusal : Refusal} (hblocks : template.blocks = .error refusal) :
      TextOnly template vars (.error (.refused refusal))
  | foreign {blocks after : List Block} {content : Text} {call : Call}
      (hblocks : template.blocks = .ok blocks)
      (first : First Block.Foreign blocks (.call content call) after) :
      TextOnly template vars (.error (.render (.functionNotFound call.function)))
  | rendered {blocks : List Block} {outputs : List Text} (hblocks : template.blocks = .ok blocks)
      (houtputs : List.Forall₂
        (fun block output => block.textOnly? (template.config.seed vars) = some output) blocks
        outputs) :
      TextOnly template vars (.ok outputs.flatten)

variable {template : Template} {vars : Variables} {result : Except Template.Error Text}

theorem exists_textOnly (template : Template) (vars : Variables) :
    ∃ result, TextOnly template vars result := by
  classical
  cases hblocks : template.blocks with
  | error refusal => exact ⟨_, .refused hblocks⟩
  | ok blocks =>
      rcases exists_first_or_forall Block.Foreign blocks with ⟨block, after, first⟩ | hnone
      · obtain ⟨call, hcall, -⟩ := first.holds
        cases block with
        | call content other => exact ⟨_, .foreign hblocks first⟩
        | _ => cases hcall
      · obtain ⟨outputs, houtputs⟩ := Block.exists_textOnly (template.config.seed vars) hnone
        exact ⟨_, .rendered hblocks houtputs⟩

/-- A template is rendered to what it comes to, in any world that is not cancelled. -/
theorem TextOnly.render (h : TextOnly template vars result) (world : World σ)
    (hlive : world.cancelled = false) :
    (template.render (Registry.empty.add (.text σ)).lookup vars world).1 = result := by
  cases h with
  | refused hblocks => rw [Template.render, hblocks]
  | foreign hblocks first =>
      obtain ⟨starts, next, ends⟩ := Block.ends_of_first_foreign first template.config hlive
      rw [Template.render, hblocks]
      exact congrArg (fun outcome => outcome.1.mapError Error.render) ends.renderAll
  | rendered hblocks houtputs =>
      obtain ⟨starts, next, run, -⟩ := Block.completes_textOnly houtputs template.config hlive
      have hrender := (Block.Ends.completed run).renderAll
      rw [Template.render, hblocks]
      exact congrArg (fun outcome => outcome.1.mapError Error.render) hrender

theorem render_eq_iff_textOnly (world : World σ) (hlive : world.cancelled = false) :
    (template.render (Registry.empty.add (.text σ)).lookup vars world).1 = result ↔
      TextOnly template vars result := by
  refine ⟨?_, fun h => h.render world hlive⟩
  rintro rfl
  obtain ⟨result, h⟩ := exists_textOnly template vars
  rwa [h.render world hlive]

end Template

end Stencil
