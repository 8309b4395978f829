import Stencil.Event
import Stencil.Proofs.List
import Stencil.Proofs.Text.Recasing

/-! # Finding functions

What a lookup finds in plugins that were registered one after another. Three times it takes the
first that fits: of a plugin's functions, of the plugins of a name, and of the plugins that have a
function. A plugin registered later stands behind all of these, so it takes nothing from those
before it, and at most it is named as one more that has the function.
-/

namespace Stencil

variable {σ : Type}

/-! ## Plugins -/

namespace Plugin

/-- One of the plugin's functions has the name, in whatever case. -/
def Has (plugin : Plugin σ) (name : Text) : Prop :=
  ∃ function ∈ plugin.functions, function.name.Recased name

instance (plugin : Plugin σ) (name : Text) : Decidable (plugin.Has name) :=
  inferInstanceAs (Decidable (∃ _ ∈ plugin.functions, _))

/-- The function is the first of the plugin to have the name, in whatever case. -/
def Finds (plugin : Plugin σ) (name : Text) (function : Function σ) : Prop :=
  ∃ after, First (fun other => other.name.Recased name) plugin.functions function after

variable {plugin : Plugin σ} {name : Text} {function : Function σ}

theorem Has.exists_finds (h : plugin.Has name) : ∃ function, plugin.Finds name function := by
  obtain ⟨other, hother, hname⟩ := h
  rcases exists_first_or_forall (fun function => function.name.Recased name) plugin.functions with
    ⟨function, after, first⟩ | hnone
  · exact ⟨function, after, first⟩
  · exact absurd hname (hnone other hother)

theorem Finds.get?_eq (h : plugin.Finds name function) : plugin.get? name = some function := by
  obtain ⟨after, first⟩ := h
  exact first.find?_eq fun _ => Text.sameName_iff_recased

theorem get?_eq_none_iff : plugin.get? name = none ↔ ¬ plugin.Has name := by
  simp [get?, Has, Text.sameName_iff_recased]

end Plugin

/-! ## Registries -/

namespace Registry

/-- What has been registered after a number of plugins, one after another. -/
def ofHistory (history : List (Plugin σ)) : Registry σ := history.foldl add empty

/-- Registering keeps the order. -/
theorem plugins_foldl_add (registry : Registry σ) (more : List (Plugin σ)) :
    (more.foldl add registry).plugins = registry.plugins ++ more := by
  induction more generalizing registry with
  | nil => simp
  | cons plugin more ih => simp [ih, add]

@[simp] theorem plugins_ofHistory (history : List (Plugin σ)) :
    (ofHistory history).plugins = history := by
  simp [ofHistory, plugins_foldl_add, empty]

/-! ### Candidates -/

/-- The candidates are the plugins that have the function, in order. -/
theorem map_fst_candidates (registry : Registry σ) (name : Text) :
    (registry.candidates name).map Prod.fst =
      (registry.plugins.filter (fun plugin => plugin.Has name)).map Plugin.name := by
  obtain ⟨plugins⟩ := registry
  induction plugins with
  | nil => rfl
  | cons plugin plugins ih =>
      rw [candidates] at ih ⊢
      by_cases h : plugin.Has name
      · obtain ⟨function, hfinds⟩ := h.exists_finds
        simp [h, hfinds.get?_eq, ih]
      · simp [h, Plugin.get?_eq_none_iff.mpr h, ih]

theorem candidates_eq_nil {registry : Registry σ} {name : Text}
    (hnone : ∀ plugin ∈ registry.plugins, ¬ plugin.Has name) : registry.candidates name = [] := by
  have h := map_fst_candidates registry name
  rw [List.filter_eq_nil_iff.mpr (by simpa using hnone)] at h
  exact List.map_eq_nil_iff.mp h

theorem candidates_of_first {registry : Registry σ} {name : Text} {owner : Plugin σ}
    {after : List (Plugin σ)} {function : Function σ}
    (first : First (fun plugin => plugin.Has name) registry.plugins owner after)
    (hfunction : owner.Finds name function) :
    registry.candidates name = (owner.name, function) :: (Registry.mk after).candidates name := by
  obtain ⟨before, hplugins, hbefore⟩ := first.split
  have hnil : (Registry.mk before).candidates name = [] := candidates_eq_nil hbefore
  rw [candidates] at hnil ⊢
  rw [hplugins, List.filterMap_append, hnil]
  simp [hfunction.get?_eq, candidates]

/-! ### Lookups -/

/-- No plugin is asked for: an empty name asks for none. -/
def Unqualified (wanted : Option Text) : Prop := wanted = none ∨ wanted = some []

instance (wanted : Option Text) : Decidable (Unqualified wanted) :=
  inferInstanceAs (Decidable (_ ∨ _))

theorem unqualified_or (wanted : Option Text) :
    Unqualified wanted ∨ ∃ plugin, wanted = some plugin ∧ plugin ≠ [] := by
  cases wanted with
  | none => exact .inl (.inl rfl)
  | some plugin =>
      by_cases hplugin : plugin = []
      · exact .inl (.inr (by rw [hplugin]))
      · exact .inr ⟨plugin, rfl, hplugin⟩

section

variable {registry : Registry σ} {wanted : Option Text} {plugin name : Text} {owner : Plugin σ}
  {after : List (Plugin σ)} {function : Function σ} {found : Match σ}

theorem lookup_unqualified (hwanted : Unqualified wanted) :
    registry.lookup wanted name =
      match registry.candidates name with
      | [] => none
      | (owner, function) :: others => some ⟨owner, function, others.map Prod.fst⟩ := by
  rcases hwanted with rfl | rfl <;> rfl

theorem lookup_qualified (hne : plugin ≠ []) :
    registry.lookup (some plugin) name = (registry.get? plugin).bind fun owner =>
      (owner.get? name).map fun function => ⟨owner.name, function, []⟩ := by
  obtain ⟨c, rest, rfl⟩ := List.exists_cons_of_ne_nil hne
  simp only [Option.map_eq_bind]
  rfl

/-- Without the name of a plugin the first plugin that has the function is taken, and every later
one that has it is noted. -/
theorem lookup_of_first (hwanted : Unqualified wanted)
    (first : First (fun plugin => plugin.Has name) registry.plugins owner after)
    (hfunction : owner.Finds name function) :
    registry.lookup wanted name = some ⟨owner.name, function,
      (after.filter (fun plugin => plugin.Has name)).map Plugin.name⟩ := by
  rw [lookup_unqualified hwanted, candidates_of_first first hfunction]
  simp only [map_fst_candidates]

theorem lookup_of_forall (hwanted : Unqualified wanted)
    (hnone : ∀ plugin ∈ registry.plugins, ¬ plugin.Has name) :
    registry.lookup wanted name = none := by
  rw [lookup_unqualified hwanted, candidates_eq_nil hnone]

/-- With the name of a plugin only the first of that name is searched. -/
theorem lookup_of_first_named (hne : plugin ≠ [])
    (first : First (fun other => other.name.Recased plugin) registry.plugins owner after) :
    registry.lookup (some plugin) name =
      (owner.get? name).map fun function => ⟨owner.name, function, []⟩ := by
  have hget : registry.get? plugin = some owner :=
    first.find?_eq fun _ => Text.sameName_iff_recased
  rw [lookup_qualified hne, hget, Option.bind_some]

theorem lookup_of_unregistered (hne : plugin ≠ [])
    (hnone : ∀ other ∈ registry.plugins, ¬ other.name.Recased plugin) :
    registry.lookup (some plugin) name = none := by
  have hget : registry.get? plugin = none := by
    simpa [get?, Text.sameName_iff_recased] using hnone
  rw [lookup_qualified hne, hget, Option.bind_none]

/-! ### Later plugins -/

/-- What is found is found as well when there are more plugins behind. -/
theorem lookup_append (hfound : registry.lookup wanted name = some found)
    (more : List (Plugin σ)) :
    ∃ later, (Registry.mk (registry.plugins ++ more)).lookup wanted name = some later ∧
      later.function = found.function ∧ later.owner = found.owner ∧
      found.others <+: later.others := by
  rcases unqualified_or wanted with hwanted | ⟨plugin, rfl, hne⟩
  · rcases exists_first_or_forall (fun plugin => plugin.Has name) registry.plugins with
      ⟨owner, after, first⟩ | hnone
    · obtain ⟨function, hfunction⟩ := first.holds.exists_finds
      rw [lookup_of_first hwanted first hfunction] at hfound
      cases hfound
      refine ⟨_, lookup_of_first hwanted (first.append more) hfunction, rfl, rfl, ?_⟩
      simp
    · rw [lookup_of_forall hwanted hnone] at hfound
      cases hfound
  · rcases exists_first_or_forall (fun other => other.name.Recased plugin) registry.plugins with
      ⟨owner, after, first⟩ | hnone
    · rw [lookup_of_first_named hne first] at hfound
      refine ⟨found, ?_, rfl, rfl, List.prefix_rfl⟩
      rw [lookup_of_first_named hne (first.append more), hfound]
    · rw [lookup_of_unregistered hne hnone] at hfound
      cases hfound

/-- A plugin that lacks a function is not made up for by those behind it. -/
theorem lookup_append_eq_none (hne : plugin ≠ [])
    (hregistered : ∃ owner ∈ registry.plugins, owner.name.Recased plugin)
    (hnone : registry.lookup (some plugin) name = none) (more : List (Plugin σ)) :
    (Registry.mk (registry.plugins ++ more)).lookup (some plugin) name = none := by
  obtain ⟨owner, howner, hname⟩ := hregistered
  rcases exists_first_or_forall (fun other => other.name.Recased plugin) registry.plugins with
    ⟨owner, after, first⟩ | hunregistered
  · rw [lookup_of_first_named hne first] at hnone
    rw [lookup_of_first_named hne (first.append more), hnone]
  · exact absurd hname (hunregistered owner howner)

end

/-! ### The rules of resolution -/

/-- What comes of looking for a function in plugins that were registered in a given order: the
function, if one is found, and what is reported. -/
inductive Resolves (history : List (Plugin σ)) (name : Text) :
    Option Text → Option (Function σ) → List Event → Prop where
  | nowhere {wanted : Option Text} (hwanted : Unqualified wanted)
      (hnone : ∀ plugin ∈ history, ¬ plugin.Has name) : Resolves history name wanted none []
  | alone {wanted : Option Text} {owner : Plugin σ} {after : List (Plugin σ)}
      {function : Function σ} (hwanted : Unqualified wanted)
      (first : First (fun plugin => plugin.Has name) history owner after)
      (hfunction : owner.Finds name function) (hlater : ∀ plugin ∈ after, ¬ plugin.Has name) :
      Resolves history name wanted (some function) []
  | ambiguous {wanted : Option Text} {owner : Plugin σ} {after : List (Plugin σ)}
      {function : Function σ} (hwanted : Unqualified wanted)
      (first : First (fun plugin => plugin.Has name) history owner after)
      (hfunction : owner.Finds name function) (hlater : ∃ plugin ∈ after, plugin.Has name) :
      Resolves history name wanted (some function)
        [.ambiguous name owner.name
          ((after.filter (fun plugin => plugin.Has name)).map Plugin.name)]
  | unregistered {plugin : Text} (hne : plugin ≠ [])
      (hnone : ∀ other ∈ history, ¬ other.name.Recased plugin) :
      Resolves history name (some plugin) none []
  | lacking {plugin : Text} {owner : Plugin σ} {after : List (Plugin σ)} (hne : plugin ≠ [])
      (first : First (fun other => other.name.Recased plugin) history owner after)
      (hlacks : ¬ owner.Has name) : Resolves history name (some plugin) none []
  | qualified {plugin : Text} {owner : Plugin σ} {after : List (Plugin σ)}
      {function : Function σ} (hne : plugin ≠ [])
      (first : First (fun other => other.name.Recased plugin) history owner after)
      (hfunction : owner.Finds name function) :
      Resolves history name (some plugin) (some function) []

end Registry

/-- The function that a lookup finds, and what it reports. -/
def Lookup.resolve (lookup : Lookup σ) (wanted : Option Text) (name : Text) :
    Option (Function σ) × List Event :=
  match lookup wanted name with
  | none => (none, [])
  | some found => (some found.function, Event.ofMatch name found)

namespace Registry

variable {history : List (Plugin σ)} {wanted : Option Text} {name : Text}
  {function? : Option (Function σ)} {events : List Event}

/-- Some rule applies, whatever is looked for. -/
theorem exists_resolves (history : List (Plugin σ)) (wanted : Option Text) (name : Text) :
    ∃ function? events, Resolves history name wanted function? events := by
  rcases unqualified_or wanted with hwanted | ⟨plugin, rfl, hne⟩
  · rcases exists_first_or_forall (fun plugin => plugin.Has name) history with
      ⟨owner, after, first⟩ | hnone
    · obtain ⟨function, hfunction⟩ := first.holds.exists_finds
      by_cases hlater : ∃ plugin ∈ after, plugin.Has name
      · exact ⟨_, _, .ambiguous hwanted first hfunction hlater⟩
      · exact ⟨_, _, .alone hwanted first hfunction (by simpa using hlater)⟩
    · exact ⟨_, _, .nowhere hwanted hnone⟩
  · rcases exists_first_or_forall (fun other => other.name.Recased plugin) history with
      ⟨owner, after, first⟩ | hnone
    · by_cases hhas : owner.Has name
      · obtain ⟨function, hfunction⟩ := hhas.exists_finds
        exact ⟨_, _, .qualified hne first hfunction⟩
      · exact ⟨_, _, .lacking hne first hhas⟩
    · exact ⟨_, _, .unregistered hne hnone⟩

/-- What a rule says is what the registry does. -/
theorem Resolves.resolve_eq (resolves : Resolves history name wanted function? events) :
    (ofHistory history).lookup.resolve wanted name = (function?, events) := by
  have hplugins := plugins_ofHistory history
  rw [Lookup.resolve]
  cases resolves with
  | nowhere hwanted hnone =>
      rw [← hplugins] at hnone
      rw [lookup_of_forall hwanted hnone]
  | alone hwanted first hfunction hlater =>
      rw [← hplugins] at first
      rw [lookup_of_first hwanted first hfunction]
      simpa [Event.ofMatch] using hlater
  | ambiguous hwanted first hfunction hlater =>
      rw [← hplugins] at first
      rw [lookup_of_first hwanted first hfunction]
      simpa [Event.ofMatch] using hlater
  | unregistered hne hnone =>
      rw [← hplugins] at hnone
      rw [lookup_of_unregistered hne hnone]
  | lacking hne first hlacks =>
      rw [← hplugins] at first
      rw [lookup_of_first_named hne first, Plugin.get?_eq_none_iff.mpr hlacks, Option.map_none]
  | qualified hne first hfunction =>
      rw [← hplugins] at first
      rw [lookup_of_first_named hne first, hfunction.get?_eq, Option.map_some]
      rfl

theorem resolve_eq_iff :
    (ofHistory history).lookup.resolve wanted name = (function?, events) ↔
      Resolves history name wanted function? events := by
  constructor
  · intro h
    obtain ⟨other, others, resolves⟩ := exists_resolves history wanted name
    rw [resolves.resolve_eq] at h
    cases h
    exact resolves
  · exact Resolves.resolve_eq

/-- In plugins that were registered in any order, under any names and with any functions, the rules
say which function is found and what is reported. More plugins do not change what is found, and they
do not let a function be found in a plugin that was registered and lacked it. -/
theorem resolution_over_history (history : List (Plugin σ)) (wanted : Option Text) (name : Text) :
    (∀ function? events, (ofHistory history).lookup.resolve wanted name = (function?, events) ↔
      Resolves history name wanted function? events) ∧
    (∀ (found : Match σ) (more : List (Plugin σ)),
      (ofHistory history).lookup wanted name = some found →
        ∃ later : Match σ, (more.foldl add (ofHistory history)).lookup wanted name = some later ∧
          later.function = found.function ∧ later.owner = found.owner ∧
          found.others <+: later.others) ∧
    ∀ (plugin : Text) (more : List (Plugin σ)), wanted = some plugin → plugin ≠ [] →
      (∃ owner ∈ history, owner.name.Recased plugin) →
      (ofHistory history).lookup wanted name = none →
        (more.foldl add (ofHistory history)).lookup wanted name = none := by
  have hmore (more : List (Plugin σ)) : more.foldl add (ofHistory history) =
      Registry.mk ((ofHistory history).plugins ++ more) := by
    rw [← plugins_foldl_add]
  refine ⟨fun _ _ => resolve_eq_iff, ?_, ?_⟩
  · intro found more hfound
    rw [hmore]
    exact lookup_append hfound more
  · rintro plugin more rfl hne hregistered hnone
    rw [hmore]
    apply lookup_append_eq_none hne _ hnone
    simpa using hregistered

/-- Two plugins of one name stand around one with an empty name. A lookup of `f` without a plugin
finds `F` in the middle and notes the last, and goes on finding it. A lookup of `A.f` searches the
first plugin alone and does not find it, nor in a third plugin of that name. -/
theorem resolution_over_history_repeated : ∃ (f g h : Function Unit) (history : List (Plugin Unit)),
    f.name = ['F'] ∧ g.name = ['g'] ∧ h.name = ['f'] ∧
    history = [⟨['a'], [], [g]⟩, ⟨[], [], [g, f]⟩, ⟨['A'], [], [h]⟩] ∧
    (ofHistory history).lookup.resolve (some []) ['f'] = (some f, [.ambiguous ['f'] [] [['A']]]) ∧
    (∃ later : Match Unit,
      ([⟨['b'], [], [h]⟩].foldl add (ofHistory history)).lookup (some []) ['f'] = some later ∧
        later.function = f ∧ later.owner = [] ∧ [['A']] <+: later.others) ∧
    ([⟨['A'], [], [f]⟩].foldl add (ofHistory history)).lookup (some ['A']) ['f'] = none := by
  let f : Function Unit := ⟨['F'], [], fun _ => .finish (.ok [])⟩
  let g : Function Unit := ⟨['g'], [], fun _ => .finish (.ok [])⟩
  let h : Function Unit := ⟨['f'], [], fun _ => .finish (.ok [])⟩
  let history : List (Plugin Unit) :=
    [⟨['a'], [], [g]⟩, ⟨[], [], [g, f]⟩, ⟨['A'], [], [h]⟩]
  obtain ⟨hrules, hkept, -⟩ := resolution_over_history history (some []) ['f']
  obtain ⟨-, -, hlacking⟩ := resolution_over_history history (some ['A']) ['f']
  refine ⟨f, g, h, history, rfl, rfl, rfl, rfl, (hrules _ _).mpr ?_, hkept ⟨[], f, [['A']]⟩ _ rfl,
    hlacking ['A'] _ rfl (by simp) ?_ rfl⟩
  · have hfirst : First (fun plugin => plugin.Has ['f']) history ⟨[], [], [g, f]⟩
        [⟨['A'], [], [h]⟩] :=
      ⟨by decide, [⟨['a'], [], [g]⟩], rfl, by decide⟩
    have hfinds : Plugin.Finds ⟨[], [], [g, f]⟩ ['f'] f :=
      ⟨[], by decide, [g], rfl, by decide⟩
    exact .ambiguous (.inr rfl) hfirst hfinds (by decide)
  · exact ⟨⟨['a'], [], [g]⟩, by simp [history], by decide⟩

end Registry

end Stencil
