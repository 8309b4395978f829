import Stencil.Proofs.Rendering.Run

/-! # Runs side by side

What a rendering has reported so far has no influence on what it does next. So worlds that
differ at most in their logs are alike for a call and for a run. Two lists of blocks, each
rendered in a setting of its own, come to the same when their blocks correspond pair by pair:
both are the same text, or both call functions that take the same course, or both call what is
not found.
-/

namespace Stencil

variable {σ : Type}

/-- Worlds that differ at most in what has been reported. -/
structure World.Alike (first second : World σ) : Prop where
  shared : first.shared = second.shared
  cancelled : first.cancelled = second.cancelled

namespace World.Alike

theorem refl (world : World σ) : Alike world world := ⟨rfl, rfl⟩

theorem symm {first second : World σ} (alike : Alike first second) : Alike second first :=
  ⟨alike.shared.symm, alike.cancelled.symm⟩

theorem trans {first second third : World σ} (alike : Alike first second)
    (further : Alike second third) : Alike first third :=
  ⟨alike.shared.trans further.shared, alike.cancelled.trans further.cancelled⟩

theorem report (world : World σ) (events : List Event) : Alike world (world.report events) :=
  ⟨rfl, rfl⟩

/-- Whatever is reported in worlds that are alike, they stay so. -/
theorem reports {first second : World σ} (alike : Alike first second)
    (events others : List Event) : Alike (first.report events) (second.report others) :=
  ⟨alike.shared, alike.cancelled⟩

end World.Alike

/-- A call comes to the same in worlds that are alike. -/
theorem Task.run_alike (aside : Bool) (task : Task σ) {first second : World σ}
    (alike : World.Alike first second) :
    (task.run aside first).1 = (task.run aside second).1 ∧
      World.Alike (task.run aside first).2 (task.run aside second).2 := by
  induction task generalizing aside first second with
  | finish result => exact ⟨rfl, alike⟩
  | load next ih =>
      rw [run, run, alike.shared]
      exact ih second.shared aside alike
  | store state next ih => exact ih aside ⟨rfl, alike.cancelled⟩
  | cancelRender next ih => exact ih aside ⟨alike.shared, rfl⟩
  | cancelCall next ih => exact ih true alike
  | isCancelled next ih =>
      rw [run, run, alike.cancelled]
      exact ih (aside || second.cancelled) aside alike
  | pause next ih =>
      rw [run, run, alike.cancelled]
      split
      next => exact ⟨rfl, alike⟩
      next => exact ih aside alike
  | awaitCancel next ih =>
      rw [run, run, alike.cancelled]
      split
      next => exact ih aside alike
      next => exact ⟨rfl, ⟨alike.shared, rfl⟩⟩

/-! ## Settings -/

/-- What a run depends on besides its blocks and its world. -/
structure Setting (σ : Type) where
  config : Config
  lookup : Lookup σ
  root : Variables

/-- The setting of a rendering. -/
def Config.setting (config : Config) (lookup : Lookup σ) (vars : Variables) : Setting σ :=
  ⟨config, lookup, config.seed vars⟩

/-- Errors that are the same, except that `naming` says how the name of a function that was not
found may differ. -/
inductive RenderError.Alike (naming : FunctionRef → FunctionRef → Prop) :
    RenderError → RenderError → Prop where
  | functionNotFound {first second : FunctionRef} (hnaming : naming first second) :
      Alike naming (.functionNotFound first) (.functionNotFound second)
  | functionFailed (failure : Failure) :
      Alike naming (.functionFailed failure) (.functionFailed failure)
  | cancelled : Alike naming .cancelled .cancelled

/-- The same output, or errors that are alike. -/
inductive Outcome.Alike (naming : FunctionRef → FunctionRef → Prop) :
    Except RenderError Text → Except RenderError Text → Prop where
  | ok (output : Text) : Alike naming (.ok output) (.ok output)
  | error {first second : RenderError} (alike : RenderError.Alike naming first second) :
      Alike naming (.error first) (.error second)

/-- Where functions are named in one way only, outcomes that are alike are the same. -/
theorem Outcome.Alike.eq {first second : Except RenderError Text}
    (alike : Outcome.Alike Eq first second) : first = second := by
  cases alike with
  | ok output => rfl
  | error alike => cases alike <;> simp_all

theorem Outcome.Alike.eq_ok {naming : FunctionRef → FunctionRef → Prop} {output : Text}
    {second : Except RenderError Text} (alike : Outcome.Alike naming (.ok output) second) :
    second = .ok output := by
  cases alike
  rfl

theorem Outcome.Alike.append {naming : FunctionRef → FunctionRef → Prop}
    {first second : Except RenderError Text} (alike : Outcome.Alike naming first second)
    (output : Text) :
    Outcome.Alike naming (first.map (output ++ ·)) (second.map (output ++ ·)) := by
  cases alike with
  | ok text => exact .ok (output ++ text)
  | error alike => exact .error alike

section

variable (naming : FunctionRef → FunctionRef → Prop) (kin : Start σ → Start σ → Prop)
  (setting other : Setting σ)

/-- Calls that come to the same, each in a setting of its own: neither finds a function, or both
find one and these take the same course. The two starts are then of the given `kin`. -/
inductive Call.Corresponds (first second : Call) : Prop where
  | notFound (hfirst : setting.lookup first.function.plugin first.function.function = none)
      (hsecond : other.lookup second.function.plugin second.function.function = none)
      (hnaming : naming first.function second.function)
  | found {found offer : Match σ}
      (hfirst : setting.lookup first.function.plugin first.function.function = some found)
      (hsecond : other.lookup second.function.plugin second.function.function = some offer)
      (hcourse : found.function.invoke ⟨first.arguments setting.root, setting.config⟩ =
        offer.function.invoke ⟨second.arguments other.root, other.config⟩)
      (hkin : kin (first.start setting.config setting.root found)
        (second.start other.config other.root offer))

/-- Blocks that come to the same, each in a setting of its own. -/
inductive Block.Corresponds : Block → Block → Prop where
  | text {first second : Block} {text : Text} (hfirst : first.text? setting.root = some text)
      (hsecond : second.text? other.root = some text) : Corresponds first second
  | call {content shown : Text} {first second : Call}
      (corresponds : Call.Corresponds naming kin setting other first second) :
      Corresponds (.call content first) (.call shown second)

end

section

variable {naming : FunctionRef → FunctionRef → Prop} {kin : Start σ → Start σ → Prop}
  {setting other : Setting σ}

/-- A block that is no call comes to its text, and reports at most. -/
theorem Block.exists_renders_text (config : Config) (lookup : Lookup σ) {root : Variables}
    {block : Block} {text : Text} (htext : block.text? root = some text) (world : World σ) :
    ∃ next, Block.Renders config lookup root world block (.ok text) [] next ∧
      World.Alike world next := by
  cases block with
  | call content call => cases htext
  | text _ =>
      cases htext
      exact ⟨world, .text world text, .refl world⟩
  | var name =>
      cases htext
      exact ⟨_, .var world name, .report world _⟩
  | literal literal =>
      cases htext
      exact ⟨world, .literal world literal, .refl world⟩
  | binding binding =>
      cases htext
      exact ⟨_, .binding world binding, .report world _⟩
  | function ref =>
      cases htext
      exact ⟨world, .function world ref, .refl world⟩

/-- Calls that correspond come to the same. -/
theorem Call.Corresponds.exists_renders {first second : Call}
    (corresponds : Call.Corresponds naming kin setting other first second) (content shown : Text)
    {world world' : World σ} (alike : World.Alike world world') :
    ∃ result result' starts starts' next next',
      Block.Renders setting.config setting.lookup setting.root world (.call content first)
        result starts next ∧
      Block.Renders other.config other.lookup other.root world' (.call shown second)
        result' starts' next' ∧
      Outcome.Alike naming result result' ∧ List.Forall₂ kin starts starts' ∧
      World.Alike next next' := by
  cases hcancelled : world.cancelled with
  | true =>
      have hcancelled' : world'.cancelled = true := alike.cancelled ▸ hcancelled
      exact ⟨_, _, _, _, _, _, .cancelled hcancelled, .cancelled hcancelled', .error .cancelled,
        .nil, alike⟩
  | false =>
      have hlive : world'.cancelled = false := alike.cancelled ▸ hcancelled
      cases corresponds with
      | notFound hfirst hsecond hnaming =>
          exact ⟨_, _, _, _, _, _, .notFound hcancelled hfirst, .notFound hlive hsecond,
            .error (.functionNotFound hnaming), .nil, alike⟩
      | @found found offer hfirst hsecond hcourse hkin =>
          have hstarts := List.Forall₂.cons hkin .nil
          -- both courses are one task, run in worlds that are alike
          have hsame : (first.course setting.config setting.root found world).1 =
                (second.course other.config other.root offer world').1 ∧
              World.Alike (first.course setting.config setting.root found world).2
                (second.course other.config other.root offer world').2 := by
            rw [course, course, hcourse]
            exact Task.run_alike false _ (alike.reports _ _)
          rcases hrun : first.course setting.config setting.root found world with ⟨result, next⟩
          rcases hrun' : second.course other.config other.root offer world' with ⟨result', next'⟩
          rw [hrun, hrun'] at hsame
          obtain ⟨rfl, hnext⟩ := hsame
          rcases result with _ | failure | output
          · exact ⟨_, _, _, _, _, _, .interrupted hcancelled hfirst hrun,
              .interrupted hlive hsecond hrun', .error .cancelled, hstarts, hnext.reports _ _⟩
          · exact ⟨_, _, _, _, _, _, .failed hcancelled hfirst hrun,
              .failed hlive hsecond hrun', .error (.functionFailed failure), hstarts,
              hnext.reports _ _⟩
          · exact ⟨_, _, _, _, _, _, .returned hcancelled hfirst hrun,
              .returned hlive hsecond hrun', .ok output, hstarts, hnext⟩

/-- Blocks that correspond come to the same in worlds that are alike. -/
theorem Block.Corresponds.exists_renders {first second : Block}
    (corresponds : Block.Corresponds naming kin setting other first second)
    {world world' : World σ} (alike : World.Alike world world') :
    ∃ result result' starts starts' next next',
      Block.Renders setting.config setting.lookup setting.root world first result starts next ∧
      Block.Renders other.config other.lookup other.root world' second result' starts' next' ∧
      Outcome.Alike naming result result' ∧ List.Forall₂ kin starts starts' ∧
      World.Alike next next' := by
  cases corresponds with
  | @text _ _ text hfirst hsecond =>
      obtain ⟨next, hrenders, hnext⟩ :=
        exists_renders_text setting.config setting.lookup hfirst world
      obtain ⟨next', hrenders', hnext'⟩ :=
        exists_renders_text other.config other.lookup hsecond world'
      exact ⟨_, _, _, _, next, next', hrenders, hrenders', .ok text, .nil,
        (hnext.symm.trans alike).trans hnext'⟩
  | call corresponds => exact corresponds.exists_renders _ _ alike

/-- Runs of blocks that correspond pair by pair end in the same way. -/
theorem Block.exists_ends_of_corresponds {blocks others : List Block}
    (correspond : List.Forall₂ (Block.Corresponds naming kin setting other) blocks others)
    {world world' : World σ} (alike : World.Alike world world') :
    ∃ result result' starts starts' next next',
      Block.Ends setting.config setting.lookup setting.root world blocks result starts next ∧
      Block.Ends other.config other.lookup other.root world' others result' starts' next' ∧
      Outcome.Alike naming result result' ∧ List.Forall₂ kin starts starts' ∧
      World.Alike next next' := by
  induction correspond generalizing world world' with
  | nil =>
      exact ⟨_, _, _, _, _, _, .completed (.nil world), .completed (.nil world'), .ok _, .nil,
        alike⟩
  | cons head _ ih =>
      obtain ⟨result, result', starts, starts', middle, middle', hfirst, hsecond, hresult, hstarts,
        hmiddle⟩ := head.exists_renders alike
      cases hresult with
      | error herror =>
          exact ⟨_, _, _, _, _, _, .stopped (.nil world) hfirst, .stopped (.nil world') hsecond,
            .error herror, hstarts, hmiddle⟩
      | ok output =>
          obtain ⟨rest, rest', more, more', next, next', hends, hends', hrest, hmore, hnext⟩ :=
            ih hmiddle
          exact ⟨_, _, _, _, _, _, .cons hfirst hends, .cons hsecond hends', hrest.append output,
            List.rel_append hstarts hmore, hnext⟩

/-- Rendering blocks that correspond comes to the same, and starts functions that are kin. -/
theorem Config.render_of_corresponds {config config' : Config} {lookup lookup' : Lookup σ}
    {vars vars' : Variables} {blocks others : List Block}
    (correspond : List.Forall₂ (Block.Corresponds naming kin (config.setting lookup vars)
      (config'.setting lookup' vars')) blocks others)
    {world world' : World σ} (alike : World.Alike world world') :
    Outcome.Alike naming (config.render lookup vars blocks world).1
        (config'.render lookup' vars' others world').1 ∧
      World.Alike (config.render lookup vars blocks world).2
        (config'.render lookup' vars' others world').2 ∧
      List.Forall₂ kin (config.started lookup vars blocks world)
        (config'.started lookup' vars' others world') := by
  obtain ⟨result, result', starts, starts', next, next', hfirst, hsecond, hresult, hstarts,
    hnext⟩ := Block.exists_ends_of_corresponds correspond alike
  simp only [Config.setting] at hfirst hsecond
  obtain ⟨hrender, hstarted⟩ := Config.render_iff_ends.mpr hfirst
  obtain ⟨hrender', hstarted'⟩ := Config.render_iff_ends.mpr hsecond
  rw [hrender, hrender', hstarted, hstarted']
  exact ⟨hresult, hnext, hstarts⟩

end

/-! ## Two roots -/

/-- Blocks that come to the same, each under a root of its own. -/
inductive Block.Alike (root other : Variables) : Block → Block → Prop where
  | text {first second : Block} {text : Text} (hfirst : first.text? root = some text)
      (hsecond : second.text? other = some text) : Alike root other first second
  | call {content shown : Text} {first second : Call}
      (hfunction : first.function = second.function)
      (harguments : first.arguments root = second.arguments other) :
      Alike root other (.call content first) (.call shown second)

theorem Block.Alike.refl (root : Variables) (block : Block) :
    Block.Alike root root block block := by
  cases block with
  | call content call => exact .call rfl rfl
  | _ => exact .text rfl rfl

/-- Blocks that are alike correspond, whatever the configuration and the functions. -/
theorem Block.Alike.corresponds {root other : Variables} {first second : Block}
    (alike : Block.Alike root other first second) (config : Config) (lookup : Lookup σ) :
    Block.Corresponds Eq Eq ⟨config, lookup, root⟩ ⟨config, lookup, other⟩ first second := by
  cases alike with
  | text hfirst hsecond => exact .text hfirst hsecond
  | @call _ _ first second hfunction harguments =>
      apply Block.Corresponds.call
      cases hfound : lookup first.function.plugin first.function.function with
      | none => exact .notFound hfound (hfunction ▸ hfound) hfunction
      | some found =>
          refine .found hfound (hfunction ▸ hfound) ?_ ?_
          · rw [harguments]
          · rw [Call.start, Call.start, harguments]

/-- Rendering blocks that are alike comes to the same and starts the same. -/
theorem Config.render_alike (config : Config) (lookup : Lookup σ) {vars vars' : Variables}
    {blocks others : List Block}
    (same : List.Forall₂ (Block.Alike (config.seed vars) (config.seed vars')) blocks others)
    {world world' : World σ} (alike : World.Alike world world') :
    (config.render lookup vars blocks world).1 = (config.render lookup vars' others world').1 ∧
      World.Alike (config.render lookup vars blocks world).2
        (config.render lookup vars' others world').2 ∧
      config.started lookup vars blocks world = config.started lookup vars' others world' := by
  obtain ⟨hresult, hnext, hstarts⟩ := Config.render_of_corresponds
    (same.imp fun _ _ alike => alike.corresponds config lookup) alike
  rw [List.forall₂_eq_eq_eq] at hstarts
  exact ⟨hresult.eq, hnext, hstarts⟩

end Stencil
