import Stencil.Proofs.Registry.Resolution
import Stencil.Proofs.Rendering.Run

/-! # Lookups that agree

A function can be reached in more ways than one. What is found without the name of a plugin is
found under the name of its owner as well, unless an earlier plugin has that name too: then only
the earlier one is searched, and it lacks the function. A plugin by itself finds what a registry
finds that holds no other. Lookups that find the same functions and report the same make for the
same renderings.
-/

namespace Stencil

variable {σ : Type}

namespace Registry

/-! ## With and without the name of a plugin -/

section

variable {registry : Registry σ} {wanted : Option Text} {name : Text} {found : Match σ}
  {before after : List (Plugin σ)} {owner : Plugin σ}

/-- What is found without the name of a plugin belongs to the first plugin that has the function. -/
theorem exists_owner (hwanted : Unqualified wanted)
    (hfound : registry.lookup wanted name = some found) :
    ∃ owner after, First (fun plugin => plugin.Has name) registry.plugins owner after ∧
      owner.name = found.owner ∧ owner.Finds name found.function := by
  rcases exists_first_or_forall (fun plugin => plugin.Has name) registry.plugins with
    ⟨owner, after, first⟩ | hnone
  · obtain ⟨function, hfunction⟩ := first.holds.exists_finds
    rw [lookup_of_first hwanted first hfunction] at hfound
    cases hfound
    exact ⟨owner, after, first, rfl, hfunction⟩
  · rw [lookup_of_forall hwanted hnone] at hfound
    cases hfound

/-- A plugin is searched under its name if no plugin before it has that name. -/
theorem lookup_of_own_name (hne : owner.name ≠ [])
    (hplugins : registry.plugins = before ++ owner :: after)
    (hnames : ∀ other ∈ before, ¬ other.name.Recased owner.name) :
    registry.lookup (some owner.name) name =
      (owner.get? name).map fun function => ⟨owner.name, function, []⟩ := by
  have hself : owner.name.Recased owner.name :=
    Text.sameName_iff_recased.mp (Text.sameName_refl owner.name)
  exact lookup_of_first_named hne ⟨hself, before, hplugins, hnames⟩

/-- Where plugins that lack a function stand before one of the same name, the function is not found
under that name. -/
theorem lookup_of_namesake (hne : owner.name ≠ [])
    (hplugins : registry.plugins = before ++ owner :: after)
    (hlacks : ∀ other ∈ before, ¬ other.Has name)
    (hnames : ∃ other ∈ before, other.name.Recased owner.name) :
    registry.lookup (some owner.name) name = none := by
  obtain ⟨other, hother, hname⟩ := hnames
  rcases exists_first_or_forall (fun plugin => plugin.name.Recased owner.name) before with
    ⟨namesake, rest, first⟩ | hnone
  · have hfirst := first.append (owner :: after)
    rw [← hplugins] at hfirst
    rw [lookup_of_first_named hne hfirst,
      Plugin.get?_eq_none_iff.mpr (hlacks namesake first.mem), Option.map_none]
  · exact absurd hname (hnone other hother)

end

/-- What is found without the name of a plugin belongs to the first plugin that has a function of
that name. Under the name of this owner the same function is found if no plugin before it has that
name, in whatever case it is spelt, and otherwise nothing. -/
theorem owner_finds_same (history : List (Plugin σ)) {wanted : Option Text} {name : Text}
    {found : Match σ} (hwanted : Unqualified wanted)
    (hfound : (ofHistory history).lookup wanted name = some found) (howner : found.owner ≠ []) :
    ∃ before owner after, history = before ++ owner :: after ∧
      (∀ other ∈ before, ¬ other.Has name) ∧
      owner.name = found.owner ∧ owner.Finds name found.function ∧
      (ofHistory history).lookup.resolve (some found.owner) name =
        (if ∃ other ∈ before, other.name.Recased found.owner then none else some found.function,
          []) := by
  obtain ⟨owner, after, first, hname, hfunction⟩ := exists_owner hwanted hfound
  obtain ⟨before, hplugins, hlacks⟩ := first.split
  have hhistory : history = before ++ owner :: after := by rw [← hplugins, plugins_ofHistory]
  refine ⟨before, owner, after, hhistory, hlacks, hname, hfunction, ?_⟩
  rw [← hname] at howner ⊢
  rw [Lookup.resolve]
  split_ifs with hnamesake
  · rw [lookup_of_namesake howner hplugins hlacks hnamesake]
  · rw [lookup_of_own_name howner hplugins (by simpa using hnamesake), hfunction.get?_eq]
    rfl

/-- A later plugin of the owner's name takes nothing from it: `F` is found in `b`, and under that
name again, although `B` has it too. -/
theorem owner_finds_same_before_namesake :
    ∃ (f h : Function Unit) (history : List (Plugin Unit)) (found : Match Unit),
      f.name = ['F'] ∧ h.name = ['f'] ∧ history = [⟨['b'], [], [f]⟩, ⟨['B'], [], [h]⟩] ∧
      (ofHistory history).lookup (some []) ['f'] = some found ∧ found.owner = ['b'] ∧
      found.others = [['B']] ∧ found.function = f ∧
      (ofHistory history).lookup.resolve (some found.owner) ['f'] = (some f, []) := by
  let f : Function Unit := ⟨['F'], [], fun _ => .finish (.ok [])⟩
  let h : Function Unit := ⟨['f'], [], fun _ => .finish (.ok [])⟩
  let history : List (Plugin Unit) := [⟨['b'], [], [f]⟩, ⟨['B'], [], [h]⟩]
  let found : Match Unit := ⟨['b'], f, [['B']]⟩
  have hfound : (ofHistory history).lookup (some []) ['f'] = some found := rfl
  obtain ⟨before, owner, after, hhistory, hlacks, -, -, hresolve⟩ :=
    owner_finds_same history (.inr rfl) hfound (by decide)
  have hbefore : before = [] := by
    cases before with
    | nil => rfl
    | cons first rest =>
        obtain rfl : first = ⟨['b'], [], [f]⟩ := (List.cons.inj hhistory).1.symm
        exact absurd (by decide) (hlacks _ List.mem_cons_self)
  refine ⟨f, h, history, found, rfl, rfl, rfl, hfound, rfl, rfl, rfl, ?_⟩
  rw [hresolve, hbefore]
  simp [found]

/-- Not every function that is found is found under the name of its owner: another plugin of that
name stands before it and lacks the function. -/
theorem owner_hidden_by_namesake :
    ∃ (f g : Function Unit) (history : List (Plugin Unit)) (found : Match Unit),
      f.name = ['f'] ∧ g.name = ['g'] ∧ history = [⟨['a'], [], [g]⟩, ⟨['a'], [], [f]⟩] ∧
      (ofHistory history).lookup none ['f'] = some found ∧ found.function = f ∧
      found.owner = ['a'] ∧ (ofHistory history).lookup (some found.owner) ['f'] = none :=
  ⟨⟨['f'], [], fun _ => .finish (.ok [])⟩, ⟨['g'], [], fun _ => .finish (.ok [])⟩, _,
    ⟨['a'], _, []⟩, rfl, rfl, rfl, rfl, rfl, rfl, rfl⟩

end Registry

/-! ## A plugin by itself -/

namespace Plugin

/-- A lookup asks for the plugin if it names it, in whatever case, or names none. -/
def Asked (plugin : Plugin σ) (wanted : Option Text) : Prop :=
  Registry.Unqualified wanted ∨ ∃ spelling ∈ wanted, plugin.name.Recased spelling

instance (plugin : Plugin σ) (wanted : Option Text) : Decidable (plugin.Asked wanted) :=
  inferInstanceAs (Decidable (_ ∨ _))

theorem asked_some {plugin : Plugin σ} {spelling : Text} (hne : spelling ≠ []) :
    plugin.Asked (some spelling) ↔ plugin.name.Recased spelling := by
  simp [Asked, Registry.Unqualified, hne]

theorem get?_eq_some_iff {plugin : Plugin σ} {name : Text} {function : Function σ} :
    plugin.get? name = some function ↔ plugin.Finds name function := by
  refine ⟨fun hfound => ?_, Finds.get?_eq⟩
  have hhas : plugin.Has name := by
    by_contra hlacks
    rw [get?_eq_none_iff.mpr hlacks] at hfound
    cases hfound
  obtain ⟨other, hother⟩ := hhas.exists_finds
  rw [hother.get?_eq] at hfound
  cases hfound
  exact hother

/-- A plugin by itself answers with its own function, if it is asked. -/
theorem lookup_eq (plugin : Plugin σ) (wanted : Option Text) (name : Text) :
    plugin.lookup wanted name =
      (if plugin.Asked wanted then plugin.get? name else none).map fun function =>
        ⟨plugin.name, function, []⟩ := by
  rcases Registry.unqualified_or wanted with hwanted | ⟨spelling, rfl, hne⟩
  · rw [if_pos (.inl hwanted)]
    rcases hwanted with rfl | rfl <;> rfl
  · obtain ⟨c, rest, rfl⟩ := List.exists_cons_of_ne_nil hne
    have hlookup : plugin.lookup (some (c :: rest)) name =
        if Text.sameName (c :: rest) plugin.name then
          (plugin.get? name).map fun function => ⟨plugin.name, function, []⟩
        else none := rfl
    simp only [hlookup, asked_some hne, ← Text.sameName_iff_recased,
      Text.sameName_comm plugin.name]
    split
    next => rfl
    next => rfl

/-- A plugin by itself finds its own function, if it is asked, and reports nothing. -/
theorem resolve_lookup (plugin : Plugin σ) (wanted : Option Text) (name : Text) :
    plugin.lookup.resolve wanted name =
      (if plugin.Asked wanted then plugin.get? name else none, []) := by
  rw [Lookup.resolve, plugin.lookup_eq]
  cases (if plugin.Asked wanted then plugin.get? name else none) with
  | none => rfl
  | some function => rfl

end Plugin

namespace Registry

/-- A registry with one plugin answers with that plugin's function, if the plugin is asked. -/
theorem lookup_alone (plugin : Plugin σ) (wanted : Option Text) (name : Text) :
    (empty.add plugin).lookup wanted name =
      (if plugin.Asked wanted then plugin.get? name else none).map fun function =>
        ⟨plugin.name, function, []⟩ := by
  rcases unqualified_or wanted with hwanted | ⟨spelling, rfl, hne⟩
  · rw [if_pos (.inl hwanted), lookup_unqualified hwanted]
    cases hfunction : plugin.get? name with
    | none => simp [candidates, empty, add, hfunction]
    | some function => simp [candidates, empty, add, hfunction]
  · by_cases hname : plugin.name.Recased spelling
    · rw [if_pos ((Plugin.asked_some hne).mpr hname)]
      exact lookup_of_first_named hne ⟨hname, [], rfl, List.forall_mem_nil _⟩
    · rw [if_neg (mt (Plugin.asked_some hne).mp hname)]
      exact lookup_of_unregistered hne (List.forall_mem_singleton.mpr hname)

end Registry

/-! ## Renderings through lookups that resolve alike -/

section

variable {first second : Lookup σ} {wanted : Option Text} {name : Text}

theorem Lookup.eq_none_of_resolve_eq
    (hresolve : first.resolve wanted name = second.resolve wanted name)
    (hnone : first wanted name = none) : second wanted name = none := by
  rw [resolve, resolve, hnone] at hresolve
  cases hother : second wanted name with
  | none => rfl
  | some other => simp [hother] at hresolve

theorem Lookup.exists_of_resolve_eq {found : Match σ}
    (hresolve : first.resolve wanted name = second.resolve wanted name)
    (hfound : first wanted name = some found) :
    ∃ other, second wanted name = some other ∧ other.function = found.function ∧
      Event.ofMatch name other = Event.ofMatch name found := by
  rw [resolve, resolve, hfound] at hresolve
  cases hother : second wanted name with
  | none => simp [hother] at hresolve
  | some other =>
      simp only [hother, Prod.mk.injEq, Option.some.injEq] at hresolve
      exact ⟨other, rfl, hresolve.1.symm, hresolve.2.symm⟩

variable (hresolve : ∀ wanted name, first.resolve wanted name = second.resolve wanted name)
  {config : Config} {root : Variables}

include hresolve

/-- A call that finds its function finds it as well through a lookup that resolves alike, starts it
with the same variables and comes to the same. -/
theorem Call.exists_of_resolve_eq {call : Call} {found : Match σ}
    (hfound : first call.function.plugin call.function.function = some found) :
    ∃ other, second call.function.plugin call.function.function = some other ∧
      call.start config root other = call.start config root found ∧
      ∀ world, call.course config root other world = call.course config root found world := by
  obtain ⟨other, hother, hfunction, hevents⟩ :=
    Lookup.exists_of_resolve_eq (hresolve _ _) hfound
  refine ⟨other, hother, ?_, fun world => ?_⟩
  · rw [start, start, hfunction]
  · rw [course, course, announced, announced, hfunction, hevents]

variable {world next : World σ} {starts : List (Start σ)}

theorem Block.Renders.of_resolve_eq {block : Block} {result : Except RenderError Text}
    (renders : Block.Renders config first root world block result starts next) :
    Block.Renders config second root world block result starts next := by
  cases renders with
  | text content => exact .text _ content
  | var name => exact .var _ name
  | literal literal => exact .literal _ literal
  | binding binding => exact .binding _ binding
  | function ref => exact .function _ ref
  | cancelled hcancelled => exact .cancelled hcancelled
  | notFound hlive hnone =>
      exact .notFound hlive (Lookup.eq_none_of_resolve_eq (hresolve _ _) hnone)
  | returned hlive hfound hcourse =>
      obtain ⟨other, hother, hstart, hsame⟩ := Call.exists_of_resolve_eq hresolve hfound
      rw [← hstart]
      exact .returned hlive hother ((hsame _).trans hcourse)
  | failed hlive hfound hcourse =>
      obtain ⟨other, hother, hstart, hsame⟩ := Call.exists_of_resolve_eq hresolve hfound
      rw [← hstart]
      exact .failed hlive hother ((hsame _).trans hcourse)
  | interrupted hlive hfound hcourse =>
      obtain ⟨other, hother, hstart, hsame⟩ := Call.exists_of_resolve_eq hresolve hfound
      rw [← hstart]
      exact .interrupted hlive hother ((hsame _).trans hcourse)

theorem Block.Completes.of_resolve_eq {blocks : List Block} {outputs : List Text}
    (run : Block.Completes config first root world blocks outputs starts next) :
    Block.Completes config second root world blocks outputs starts next := by
  induction run with
  | nil world => exact .nil world
  | cons head _ ih => exact .cons (head.of_resolve_eq hresolve) ih

theorem Block.Ends.of_resolve_eq {blocks : List Block} {result : Except RenderError Text}
    (ends : Block.Ends config first root world blocks result starts next) :
    Block.Ends config second root world blocks result starts next := by
  cases ends with
  | completed run => exact .completed (run.of_resolve_eq hresolve)
  | stopped run failure =>
      exact .stopped (run.of_resolve_eq hresolve) (failure.of_resolve_eq hresolve)

/-- Blocks come to the same through lookups that resolve alike: the same outcome in the same world,
after starting the same functions with the same variables. -/
theorem Config.render_of_resolve_eq (config : Config) (vars : Variables) (blocks : List Block)
    (world : World σ) :
    config.render first vars blocks world = config.render second vars blocks world ∧
      config.started first vars blocks world = config.started second vars blocks world := by
  obtain ⟨result, starts, next, ends⟩ :=
    Block.exists_ends config first (config.seed vars) world blocks
  obtain ⟨hrender, hstarted⟩ := Config.render_iff_ends.mpr ends
  obtain ⟨hrender', hstarted'⟩ := Config.render_iff_ends.mpr (ends.of_resolve_eq hresolve)
  exact ⟨hrender.trans hrender'.symm, hstarted.trans hstarted'.symm⟩

theorem Template.render_of_resolve_eq (template : Template) (vars : Variables)
    (world : World σ) :
    template.render first vars world = template.render second vars world ∧
      template.started first vars world = template.started second vars world := by
  rw [Template.render_eq, Template.render_eq, Template.started_eq, Template.started_eq]
  cases template.blocks with
  | error refusal => exact ⟨rfl, rfl⟩
  | ok blocks =>
      obtain ⟨hrender, hstarted⟩ := template.config.render_of_resolve_eq hresolve vars blocks world
      dsimp only
      rw [hrender]
      exact ⟨rfl, hstarted⟩

end

namespace Registry

/-- A plugin can be looked up by itself or in a registry that holds it alone, whatever its name and
its functions are. Either way a function is found if the plugin has it and is asked by its own name
or by none, and nothing is reported. Any blocks and any template then render to the same output or
the same error in the same world, and start the same functions with the same variables. -/
theorem sole_plugin_interchangeable (plugin : Plugin σ) :
    (∀ (wanted : Option Text) (name : Text),
      (empty.add plugin).lookup.resolve wanted name = plugin.lookup.resolve wanted name ∧
      (plugin.lookup.resolve wanted name).2 = [] ∧
      ∀ function, (plugin.lookup.resolve wanted name).1 = some function ↔
        plugin.Asked wanted ∧ plugin.Finds name function) ∧
    (∀ (config : Config) (vars : Variables) (blocks : List Block) (world : World σ),
      config.render (empty.add plugin).lookup vars blocks world =
          config.render plugin.lookup vars blocks world ∧
        config.started (empty.add plugin).lookup vars blocks world =
          config.started plugin.lookup vars blocks world) ∧
    ∀ (template : Template) (vars : Variables) (world : World σ),
      template.render (empty.add plugin).lookup vars world =
          template.render plugin.lookup vars world ∧
        template.started (empty.add plugin).lookup vars world =
          template.started plugin.lookup vars world := by
  have hresolve : ∀ wanted name,
      (empty.add plugin).lookup.resolve wanted name = plugin.lookup.resolve wanted name := by
    intro wanted name
    rw [Lookup.resolve, Lookup.resolve, lookup_alone, plugin.lookup_eq]
  refine ⟨fun wanted name => ⟨hresolve wanted name, ?_, fun function => ?_⟩, ?_, ?_⟩
  · rw [plugin.resolve_lookup]
  · rw [plugin.resolve_lookup, ← Plugin.get?_eq_some_iff]
    by_cases hasked : plugin.Asked wanted
    · simp [hasked]
    · simp [hasked]
  · exact Config.render_of_resolve_eq hresolve
  · exact Template.render_of_resolve_eq hresolve

end Registry

end Stencil
