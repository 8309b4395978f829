import Stencil.Function.TextPlugin
import Stencil.Proofs.List
import Stencil.Proofs.Registry.Additions
import Stencil.Proofs.Rendering.Isolation
import Stencil.Proofs.Rendering.Likeness
import Stencil.Proofs.Text.Recasing
import Stencil.Proofs.Variables.Agreement

/-! # The case of names

Names may be spelt in any case wherever they stand: in blocks, in the caller's variables, in the
parameters of a configuration and in the arguments of calls. Plugins find the same functions, and
functions that only read variables by their names are called with variables that read the same.
So a rendering does the same when the case of names is changed.
-/

namespace Stencil

variable {σ : Type}

/-! ## Names in another case -/

structure FunctionRef.Recased (first second : FunctionRef) : Prop where
  plugin : Option.Rel Text.Recased first.plugin second.plugin
  function : first.function.Recased second.function

inductive Operand.Recased : Operand → Operand → Prop where
  | literal (literal : Literal) : Recased (.literal literal) (.literal literal)
  | var {name spelling : Text} (hname : name.Recased spelling) :
      Recased (.var name) (.var spelling)

structure Binding.Recased (first second : Binding) : Prop where
  name : first.name.Recased second.name
  value : Operand.Recased first.value second.value

structure Call.Recased (first second : Call) : Prop where
  function : first.function.Recased second.function
  input : Option.Rel Operand.Recased first.input second.input
  named : List.Forall₂ Binding.Recased first.named second.named

/-- A block and the same block with its names in another case. What a call is shown as is left open,
and a function's name alone, which is shown as it is spelt, has no place here. -/
inductive Block.Recased : Block → Block → Prop where
  | text (text : Text) : Recased (.text text) (.text text)
  | var {name spelling : Text} (hname : name.Recased spelling) :
      Recased (.var name) (.var spelling)
  | literal (literal : Literal) : Recased (.literal literal) (.literal literal)
  | binding {first second : Binding} (hbinding : first.Recased second) :
      Recased (.binding first) (.binding second)
  | call {content shown : Text} {first second : Call} (hcall : first.Recased second) :
      Recased (.call content first) (.call shown second)

structure Entry.Recased (first second : Entry) : Prop where
  name : first.name.Recased second.name
  value : first.value = second.value

def Variables.Recased (first second : Variables) : Prop :=
  List.Forall₂ Entry.Recased first.entries second.entries

structure Parameter.Recased (first second : Parameter) : Prop where
  name : first.name.Recased second.name
  description : first.description = second.description
  default : first.default = second.default

/-- A configuration and the same configuration with the names of its parameters in another case. -/
structure Config.Recased (first second : Config) : Prop where
  schema : first.schema = second.schema
  description : first.description = second.description
  parameters : List.Forall₂ Parameter.Recased first.parameters second.parameters
  settings : first.settings = second.settings
  allowUnsafe : first.allowUnsafe = second.allowUnsafe
  inlineVariables : first.inlineVariables = second.inlineVariables

/-- A function that sees no more of its variables than the values of names, and of the names of
parameters no more than they are. -/
def Function.CaseBlind (function : Function σ) : Prop :=
  ∀ first second : Context,
    (∀ name, first.vars.get? name = second.vars.get? name) →
      first.config.Recased second.config → function.invoke first = function.invoke second

/-! ## Variables -/

/-- All names have the same values. -/
abbrev Variables.AgreeOnAll (first second : Variables) : Prop := Agree (fun _ => True) first second

theorem Entry.lookup?_recased {first second : List Entry}
    (h : List.Forall₂ Entry.Recased first second) (name : Text) :
    lookup? name first = lookup? name second := by
  induction h with
  | nil => rfl
  | cons hentry _ ih =>
      have hname := Text.sameName_congr (Text.sameName_iff_recased.mpr hentry.name) name
      rw [lookup?_cons, lookup?_cons, hname, hentry.value, ih]

theorem Variables.Recased.agree {first second : Variables} (h : first.Recased second) :
    first.AgreeOnAll second :=
  fun name _ => Entry.lookup?_recased h name

section

variable {root other : Variables}

theorem Operand.Recased.resolve {first second : Operand} (h : first.Recased second)
    (agree : root.AgreeOnAll other) : first.resolve root = second.resolve other := by
  cases h with
  | literal literal => rfl
  | @var name spelling hname =>
      rw [Operand.resolve, Operand.resolve, agree name trivial,
        other.get?_congr (Text.sameName_iff_recased.mpr hname)]

/-- The arguments of a call go to the same names and stand for the same texts. -/
theorem Call.Recased.bound {first second : Call} (h : first.Recased second)
    (agree : root.AgreeOnAll other) :
    List.Forall₂ (fun pair copy : Text × Text =>
      pair.1.sameName copy.1 = true ∧ pair.2 = copy.2) (first.bound root) (second.bound other) := by
  rw [Call.bound, Call.bound]
  apply List.rel_append
  · rw [List.forall₂_map_left_iff, List.forall₂_map_right_iff]
    refine (List.forall₂_toList h.input).imp fun operand copy hoperand => ?_
    exact ⟨Text.sameName_refl _, hoperand.resolve agree⟩
  · rw [List.forall₂_map_left_iff, List.forall₂_map_right_iff]
    refine h.named.imp fun binding copy hbinding => ?_
    exact ⟨Text.sameName_iff_recased.mpr hbinding.name, hbinding.value.resolve agree⟩

theorem Call.Recased.arguments {first second : Call} (h : first.Recased second)
    (agree : root.AgreeOnAll other) :
    (first.arguments root).AgreeOnAll (second.arguments other) := by
  rw [Call.arguments_eq_extend, Call.arguments_eq_extend]
  exact agree.extend (h.bound agree)

end

theorem Config.Recased.seed {config copy : Config} (h : config.Recased copy)
    {vars vars' : Variables} (agree : vars.AgreeOnAll vars') :
    (config.seed vars).AgreeOnAll (copy.seed vars') := by
  apply agree.seed
  refine h.parameters.imp fun parameter other hparameter => ?_
  exact ⟨trivial, Text.sameName_iff_recased.mpr hparameter.name, hparameter.default⟩

/-! ## Finding functions -/

namespace Text.Recased

variable {name spelling : Text}

theorem get?_plugin (h : name.Recased spelling) (plugin : Plugin σ) :
    plugin.get? name = plugin.get? spelling := by
  simp only [Plugin.get?, sameName_congr_right (sameName_iff_recased.mpr h)]

theorem get?_registry (h : name.Recased spelling) (registry : Registry σ) :
    registry.get? name = registry.get? spelling := by
  simp only [Registry.get?, sameName_congr_right (sameName_iff_recased.mpr h)]

theorem candidates (h : name.Recased spelling) (registry : Registry σ) :
    registry.candidates name = registry.candidates spelling := by
  simp only [Registry.candidates, h.get?_plugin]

end Text.Recased

theorem wantedPlugin_recased {first second : Option Text}
    (h : Option.Rel Text.Recased first second) :
    Option.Rel Text.Recased (wantedPlugin first) (wantedPlugin second) := by
  cases h with
  | none => exact .none
  | some hname =>
      cases hname with
      | nil => exact .none
      | cons hletter hrest => exact .some (.cons hletter hrest)

/-- Ways to find functions that go through plugins, and the plugins that they go through. -/
inductive Lookup.Searches : Lookup σ → List (Plugin σ) → Prop where
  | registry (registry : Registry σ) : Searches registry.lookup registry.plugins
  | plugin (plugin : Plugin σ) : Searches plugin.lookup [plugin]

namespace Lookup.Searches

variable {lookup : Lookup σ} {plugins : List (Plugin σ)}

/-- Plugins find the same in whatever case a function is named. -/
theorem lookup_recased (searches : Lookup.Searches lookup plugins) {first second : FunctionRef}
    (h : first.Recased second) :
    lookup first.plugin first.function = lookup second.plugin second.function := by
  have hwanted := wantedPlugin_recased h.plugin
  cases searches with
  | registry registry =>
      rw [Registry.lookup, Registry.lookup]
      generalize wantedPlugin first.plugin = wanted at hwanted ⊢
      generalize wantedPlugin second.plugin = copy at hwanted ⊢
      cases hwanted with
      | none => rw [h.function.candidates]
      | some hplugin =>
          simp only [hplugin.get?_registry, h.function.get?_plugin]
  | plugin plugin =>
      rw [Plugin.lookup, Plugin.lookup, h.function.get?_plugin]
      generalize wantedPlugin first.plugin = wanted at hwanted ⊢
      generalize wantedPlugin second.plugin = copy at hwanted ⊢
      cases hwanted with
      | none => rfl
      | some hplugin =>
          simp only [Text.sameName_congr (Text.sameName_iff_recased.mpr hplugin)]

/-- What is found is a function of one of the plugins. -/
theorem exists_mem (searches : Lookup.Searches lookup plugins) {plugin : Option Text} {name : Text}
    {found : Match σ} (hfound : lookup plugin name = some found) :
    ∃ owner ∈ plugins, found.function ∈ owner.functions := by
  have hget {owner : Plugin σ} {function : Function σ} (h : owner.get? name = some function) :
      function ∈ owner.functions := List.mem_of_find?_eq_some h
  cases searches with
  | registry registry =>
      rw [Registry.lookup] at hfound
      split at hfound
      next wanted _ =>
        simp only [Option.bind_eq_bind, Option.bind_eq_some_iff] at hfound
        obtain ⟨owner, howner, function, hfunction, hmatch⟩ := hfound
        cases hmatch
        exact ⟨owner, List.mem_of_find?_eq_some howner, hget hfunction⟩
      next =>
        split at hfound
        next => cases hfound
        next first function others hcandidates =>
          have hmem : (first, function) ∈ registry.candidates name := by simp [hcandidates]
          obtain ⟨owner, howner, hpair⟩ := List.mem_filterMap.mp hmem
          obtain ⟨function, hfunction, hpair⟩ := Option.map_eq_some_iff.mp hpair
          cases hpair
          cases hfound
          exact ⟨owner, howner, hget hfunction⟩
  | plugin owner =>
      have hmap : (owner.get? name).map (fun function => ⟨owner.name, function, []⟩) =
          some found := by
        rw [Plugin.lookup] at hfound
        split at hfound
        next =>
          split at hfound
          next => exact hfound
          next => cases hfound
        next => exact hfound
      obtain ⟨function, hfunction, rfl⟩ := Option.map_eq_some_iff.mp hmap
      exact ⟨owner, List.mem_singleton_self owner, hget hfunction⟩

end Lookup.Searches

/-! ## The text plugin -/

theorem TextOperation.caseBlind_toFunction (operation : TextOperation) :
    (operation.toFunction σ).CaseBlind := by
  intro first second hvars _
  have hinput : first.vars.input = second.vars.input := by
    rw [Variables.input, Variables.input, hvars]
  have happly : operation.apply first.vars = operation.apply second.vars := by
    cases operation <;> simp only [apply, hinput, hvars]
  exact congrArg (fun text => Task.finish (.ok text)) happly

theorem Plugin.caseBlind_text {function : Function σ} (h : function ∈ (text σ).functions) :
    function.CaseBlind := by
  have hadded : LastAdded (TextOperation.all.map (TextOperation.toFunction σ)) function.name
      function := lastAdded_of_mem h
  obtain ⟨operation, -, rfl⟩ := List.mem_map.mp hadded.mem
  exact operation.caseBlind_toFunction

/-! ## Renderings -/

/-- Starts of one function, whose variables read the same. -/
structure Start.Recased (first second : Start σ) : Prop where
  function : first.function = second.function
  vars : ∀ name, first.context.vars.get? name = second.context.vars.get? name

/-- A block and the same block with its names in another case come to the same. -/
theorem Block.Recased.corresponds {lookup : Lookup σ} {plugins : List (Plugin σ)}
    (searches : Lookup.Searches lookup plugins)
    (hblind : ∀ plugin ∈ plugins, ∀ function ∈ plugin.functions, function.CaseBlind)
    {config copy : Config} (hconfig : config.Recased copy) {root other : Variables}
    (agree : root.AgreeOnAll other) {first second : Block} (h : first.Recased second) :
    Block.Corresponds FunctionRef.Recased Start.Recased ⟨config, lookup, root⟩
      ⟨copy, lookup, other⟩ first second := by
  cases h with
  | text text => exact .text rfl rfl
  | var hname =>
      refine .text rfl ?_
      rw [Block.text?, (Operand.Recased.var hname).resolve agree]
  | literal literal => exact .text rfl rfl
  | binding hbinding =>
      refine .text rfl ?_
      rw [Block.text?, hbinding.value.resolve agree]
  | @call _ _ first second hcall =>
      have hlookup := searches.lookup_recased hcall.function
      have hvars := fun name => hcall.arguments agree name trivial
      apply Block.Corresponds.call
      cases hfound : lookup first.function.plugin first.function.function with
      | none => exact .notFound hfound (hlookup.symm.trans hfound) hcall.function
      | some found =>
          obtain ⟨owner, howner, hmem⟩ := searches.exists_mem hfound
          exact .found hfound (hlookup.symm.trans hfound)
            (hblind owner howner _ hmem _ _ hvars hconfig) ⟨rfl, hvars⟩

/-- The case of names makes no difference to a rendering. Blocks with their names in another case,
rendered with variables and parameters that may be recased too, come to the same output, or to the
same error with at most the name of a function that was not found in another case. The same
functions are started in the same order, with variables that read the same. This holds of all
functions found through plugins that read their variables by name. -/
theorem case_of_names_unseen {lookup : Lookup σ} {plugins : List (Plugin σ)}
    (searches : Lookup.Searches lookup plugins)
    (hblind : ∀ plugin ∈ plugins, ∀ function ∈ plugin.functions, function.CaseBlind)
    {config copy : Config} (hconfig : config.Recased copy) {vars vars' : Variables}
    (hvars : vars.Recased vars') {blocks copies : List Block}
    (hblocks : List.Forall₂ Block.Recased blocks copies) (world : World σ) :
    Outcome.Alike FunctionRef.Recased (config.render lookup vars blocks world).1
        (copy.render lookup vars' copies world).1 ∧
      List.Forall₂ Start.Recased (config.started lookup vars blocks world)
        (copy.started lookup vars' copies world) ∧
      World.Alike (config.render lookup vars blocks world).2
        (copy.render lookup vars' copies world).2 := by
  have hroot := hconfig.seed hvars.agree
  obtain ⟨hresult, hworld, hstarts⟩ := Config.render_of_corresponds
    (hblocks.imp fun _ _ h => h.corresponds searches hblind hconfig hroot) (.refl world)
  exact ⟨hresult, hstarts, hworld⟩

/-- With the text plugin, `$Name`, an argument with a default and `text.concat $name input2=$mark`
come to the same in another case, and so does a function that does not exist, up to its name. -/
theorem case_of_names_unseen_text :
    ∃ (config copy : Config) (lookup : Lookup Unit) (plugins : List (Plugin Unit))
      (vars vars' : Variables) (blocks copies : List Block) (missing spelling : FunctionRef)
      (world : World Unit),
      Lookup.Searches lookup plugins ∧ plugins = [.text Unit] ∧
      config.parameters = [⟨"Mark".toList, [], some ['!']⟩] ∧ config.Recased copy ∧
      copy.parameters = [⟨"mARK".toList, [], some ['!']⟩] ∧
      vars.toList = [("Name".toList, ['A'])] ∧ vars'.toList = [("NAME".toList, ['A'])] ∧
      vars.Recased vars' ∧
      blocks = [.var "Name".toList, .binding ⟨['n'], .var "mark".toList⟩,
        .call [] ⟨⟨some "text".toList, "concat".toList⟩, some (.var "name".toList),
          [⟨"input2".toList, .var "mark".toList⟩]⟩] ∧
      copies = [.var "namE".toList, .binding ⟨['N'], .var "MARK".toList⟩,
        .call [] ⟨⟨some "Text".toList, "CONCAT".toList⟩, some (.var "naMe".toList),
          [⟨"Input2".toList, .var "maRk".toList⟩]⟩] ∧
      missing = ⟨some "text".toList, "Gone".toList⟩ ∧
      spelling = ⟨some "TEXT".toList, "gonE".toList⟩ ∧
      (config.render lookup vars blocks world).1 = .ok ['A', '!', 'A', '!'] ∧
      (copy.render lookup vars' copies world).1 = .ok ['A', '!', 'A', '!'] ∧
      List.Forall₂ Start.Recased (config.started lookup vars blocks world)
        (copy.started lookup vars' copies world) ∧
      (config.started lookup vars blocks world).length = 1 ∧
      (config.render lookup vars (blocks ++ [.call [] ⟨missing, none, []⟩]) world).1 =
        .error (.functionNotFound missing) ∧
      Outcome.Alike FunctionRef.Recased (.error (.functionNotFound missing))
        (copy.render lookup vars' (copies ++ [.call [] ⟨spelling, none, []⟩]) world).1 := by
  let config : Config := { Config.standard with parameters := [⟨"Mark".toList, [], some ['!']⟩] }
  let copy : Config := { Config.standard with parameters := [⟨"mARK".toList, [], some ['!']⟩] }
  let registry : Registry Unit := ⟨[.text Unit]⟩
  let vars : Variables := .ofList [("Name".toList, ['A'])]
  let vars' : Variables := .ofList [("NAME".toList, ['A'])]
  let blocks : List Block := [.var "Name".toList, .binding ⟨['n'], .var "mark".toList⟩,
    .call [] ⟨⟨some "text".toList, "concat".toList⟩, some (.var "name".toList),
      [⟨"input2".toList, .var "mark".toList⟩]⟩]
  let copies : List Block := [.var "namE".toList, .binding ⟨['N'], .var "MARK".toList⟩,
    .call [] ⟨⟨some "Text".toList, "CONCAT".toList⟩, some (.var "naMe".toList),
      [⟨"Input2".toList, .var "maRk".toList⟩]⟩]
  let missing : FunctionRef := ⟨some "text".toList, "Gone".toList⟩
  let spelling : FunctionRef := ⟨some "TEXT".toList, "gonE".toList⟩
  have hconfig : config.Recased copy :=
    ⟨rfl, rfl, .cons ⟨by decide, rfl, rfl⟩ .nil, rfl, rfl, rfl⟩
  have hvars : vars.Recased vars' := .cons ⟨by decide, rfl⟩ .nil
  have hblocks : List.Forall₂ Block.Recased blocks copies :=
    .cons (.var (by decide)) (.cons (.binding ⟨by decide, .var (by decide)⟩)
      (.cons (.call ⟨⟨.some (by decide), by decide⟩, .some (.var (by decide)),
        .cons ⟨by decide, .var (by decide)⟩ .nil⟩) .nil))
  have hmissing : Block.Recased (.call [] ⟨missing, none, []⟩) (.call [] ⟨spelling, none, []⟩) :=
    .call ⟨⟨.some (by decide), by decide⟩, .none, .nil⟩
  have hblind : ∀ plugin ∈ registry.plugins, ∀ function ∈ plugin.functions,
      function.CaseBlind := by
    intro plugin hplugin function hfunction
    rw [List.mem_singleton.mp hplugin] at hfunction
    exact Plugin.caseBlind_text hfunction
  obtain ⟨hresult, hstarts, -⟩ := case_of_names_unseen (.registry registry) hblind hconfig hvars
    hblocks ⟨(), false, []⟩
  obtain ⟨herror, -, -⟩ := case_of_names_unseen (.registry registry) hblind hconfig hvars
    (List.rel_append hblocks (.cons hmissing .nil)) ⟨(), false, []⟩
  exact ⟨config, copy, registry.lookup, registry.plugins, vars, vars', blocks, copies, missing,
    spelling, _, .registry registry, rfl, rfl, hconfig, rfl, rfl, rfl, hvars, rfl, rfl, rfl, rfl,
    rfl, hresult.eq_ok, hstarts, rfl, rfl, herror⟩

end Stencil
