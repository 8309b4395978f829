import Stencil.Proofs.Rendering.Isolation
import Stencil.Proofs.Variables.Agreement
import Stencil.Proofs.Variables.History

/-! # The arguments of a call

What a function finds under a name comes from the last named argument of that name, else from
the unnamed argument if the name is that of the main input, else from the root. Arguments are
looked up in the root alone, so none of them sees another. The names of the root keep their
places and spellings. New names come behind them, the main input first and then the others as
they are first written.
-/

namespace Stencil

variable {σ : Type}

namespace Variables

/-! ## Setting values one after another -/

/-- Names that are there keep their places and spellings when values are set one after another.
The others come behind them, each once and as it is first spelt. -/
theorem names_extend (vars : Variables) (pairs : List (Text × Text)) :
    (vars.extend pairs).names =
      vars.names ++
        ((pairs.map Prod.fst).filter fun name => !vars.contains name).eraseDupsBy
          Text.sameName := by
  induction pairs generalizing vars with
  | nil => simp [extend, List.eraseDupsBy_nil]
  | cons pair rest ih =>
      have hextend : vars.extend (pair :: rest) = (vars.set pair.1 pair.2).extend rest := rfl
      rw [hextend, ih, names_set, List.map_cons]
      simp only [contains_set, Bool.not_or]
      cases hvalue : vars.get? pair.1 with
      | some value =>
          have hpair : vars.contains pair.1 = true := by simp [contains, hvalue]
          -- other spellings of a name that is there are there as well
          have hknown (name : Text) :
              (!pair.1.sameName name && !vars.contains name) = !vars.contains name := by
            cases hname : pair.1.sameName name with
            | false => simp
            | true =>
                have hcontains : vars.contains name = vars.contains pair.1 := by
                  rw [contains, contains, vars.get?_congr hname]
                simp [hcontains, hpair]
          simp [hknown, hpair]
      | none =>
          have hpair : vars.contains pair.1 = false := by simp [contains, hvalue]
          simp [hpair, List.eraseDupsBy_cons, List.filter_filter, Text.not_sameName_comm pair.1]

end Variables

namespace Call

/-! ## Names and the arguments that go to them -/

/-- The argument of a call that goes to a name: the last named one of that name, in whatever case
either is spelt, and the unnamed one for the main input if no named one goes there. -/
inductive Supplies (call : Call) (name : Text) : Operand → Prop where
  | named {before after : List Binding} {binding : Binding}
      (hnamed : call.named = before ++ binding :: after) (hname : binding.name.Recased name)
      (hlast : ∀ later ∈ after, ¬ later.name.Recased name) : Supplies call name binding.value
  | input {operand : Operand} (hinput : call.input = some operand)
      (hname : Text.Recased "input".toList name)
      (hnone : ∀ binding ∈ call.named, ¬ binding.name.Recased name) : Supplies call name operand

/-- The names that arguments are written for, the unnamed one standing first. -/
def writtenNames (call : Call) : List Text :=
  call.input.toList.map (fun _ => "input".toList) ++ call.named.map Binding.name

theorem map_fst_bound (call : Call) (root : Variables) :
    (call.bound root).map Prod.fst = call.writtenNames := by
  simp [bound, writtenNames, Function.comp_def, Variables.inputName]

variable {call : Call} {name : Text}

/-- No argument of the list goes to the name. -/
theorem not_sameName_of_named {bindings : List Binding}
    (hnone : ∀ binding ∈ bindings, ¬ binding.name.Recased name) (root : Variables) :
    ∀ pair ∈ bindings.map fun binding => (binding.name, binding.value.resolve root),
      pair.1.sameName name = false := by
  rw [List.forall_mem_map]
  intro binding hmem
  rw [← Bool.not_eq_true, Text.sameName_iff_recased]
  exact hnone binding hmem

/-- A function finds what the argument that goes to a name stands for in the root. -/
theorem Supplies.get?_arguments {operand : Operand} (supplies : call.Supplies name operand)
    (root : Variables) : (call.arguments root).get? name = some (operand.resolve root) := by
  rw [arguments_eq_extend, bound]
  cases supplies with
  | @named before after binding hnamed hname hlast =>
      have hsame := Text.sameName_iff_recased.mpr hname
      rw [← Variables.get?_congr _ hsame, hnamed, List.map_append, List.map_cons,
        ← List.append_assoc]
      apply Variables.get?_extend_of_last
      have hothers := not_sameName_of_named hlast root
      intro pair hpair
      rw [Text.sameName_congr_right hsame]
      exact hothers pair hpair
  | input hinput hname hnone =>
      have hsame := Text.sameName_iff_recased.mpr hname
      rw [hinput, Variables.extend_append,
        Variables.get?_extend_of_other (not_sameName_of_named hnone root)]
      exact (Variables.get?_set root _ _ name).trans (if_pos hsame)

/-- A name that no argument goes to has the value that it has in the root. -/
theorem get?_arguments_of_other (hnone : ∀ binding ∈ call.named, ¬ binding.name.Recased name)
    (hinput : call.input = none ∨ ¬ Text.Recased "input".toList name) (root : Variables) :
    (call.arguments root).get? name = root.get? name := by
  rw [arguments_eq_extend, bound, Variables.extend_append,
    Variables.get?_extend_of_other (not_sameName_of_named hnone root)]
  apply Variables.get?_extend_of_other
  intro pair hpair
  obtain ⟨operand, hmem, rfl⟩ := List.mem_map.mp hpair
  rcases hinput with habsent | hother
  · simp [habsent] at hmem
  · rw [← Bool.not_eq_true, Text.sameName_iff_recased]
    exact hother

/-- The names of the root come first, and behind them those that are new. -/
theorem names_arguments (call : Call) (root : Variables) :
    (call.arguments root).names =
      root.names ++
        (call.writtenNames.filter fun name => !root.contains name).eraseDupsBy
          Text.sameName := by
  rw [arguments_eq_extend, Variables.names_extend, map_fst_bound]

end Call

/-! ## What a function is called with -/

/-- A call whose function is found starts that function, with its arguments over the root. -/
theorem Block.started_call {config : Config} {lookup : Lookup σ} {root : Variables}
    {content : Text} {call : Call} {found : Match σ} {world : World σ}
    (hlive : world.cancelled = false)
    (hfound : lookup call.function.plugin call.function.function = some found) :
    ((Block.call content call).render config lookup.recorded root
      (world.recorded [])).2.shared.2 = [call.start config root found] := by
  obtain ⟨result, starts, next, renders⟩ :=
    Block.exists_renders config lookup root world (.call content call)
  obtain ⟨more, hrecorded⟩ := renders.recorded []
  have hstarts : starts = [call.start config root found] := by
    cases renders with
    | cancelled hcancelled => simp [hcancelled] at hlive
    | notFound _ hnone => simp [hfound] at hnone
    | returned _ hother _ => simp_all
    | failed _ hother _ => simp_all
    | interrupted _ hother _ => simp_all
  rw [hrecorded.render, ← hstarts]
  rfl

/-- Whichever function a call finds, it is called with the arguments of the call over the root.
Under a name the function finds what the last named argument of that name stands for; if there is
none and the name is that of the main input, what the unnamed argument stands for; and else the
value in the root. A literal stands for its value and a variable for what the root has for it, which
is the empty text if it has nothing. The names of the root keep their places and spellings, and
behind them come the new ones: the main input if it is given unnamed, and the others in the order
and the spelling in which they are first written. -/
theorem arguments_over_root (call : Call) (root : Variables) :
    ∃ vars : Variables,
      (∀ (σ : Type) (config : Config) (lookup : Lookup σ) (content : Text) (world : World σ)
          (found : Match σ),
        world.cancelled = false →
        lookup call.function.plugin call.function.function = some found →
          ((Block.call content call).render config lookup.recorded root
            (world.recorded [])).2.shared.2 = [⟨found.function, ⟨vars, config⟩⟩]) ∧
      (∀ name literal, call.Supplies name (.literal literal) →
        vars.get? name = some literal.value) ∧
      (∀ name source, call.Supplies name (.var source) →
        vars.get? name = some ((root.get? source).getD [])) ∧
      (∀ name, (∀ binding ∈ call.named, ¬ binding.name.Recased name) →
        (call.input = none ∨ ¬ Text.Recased "input".toList name) →
          vars.get? name = root.get? name) ∧
      vars.names =
        root.names ++
          (call.writtenNames.filter fun name => !root.contains name).eraseDupsBy
            Text.sameName := by
  refine ⟨call.arguments root, ?_, ?_, ?_, ?_, call.names_arguments root⟩
  · intro σ config lookup content world found hlive hfound
    exact Block.started_call hlive hfound
  · intro name literal supplies
    exact supplies.get?_arguments root
  · intro name source supplies
    exact supplies.get?_arguments root
  · intro name hnone hinput
    exact Call.get?_arguments_of_other hnone hinput root

/-- In `{{f $a input=$b b=$input x=$none Y=$a y='q'}}` the named `input` goes before the unnamed
one, `b` gets the input of the caller, `x` loses its value to a variable that is not set, and the
last of the arguments called `y` counts, in the spelling of the first. -/
theorem arguments_over_root_rebinding :
    ∃ (call : Call) (root vars : Variables) (found : Match Unit) (world : World Unit),
      call = ⟨⟨none, ['f']⟩, some (.var ['a']),
        [⟨"input".toList, .var ['b']⟩, ⟨['b'], .var "input".toList⟩, ⟨['x'], .var "none".toList⟩,
          ⟨['Y'], .var ['a']⟩, ⟨['y'], .literal ⟨.single, ['q']⟩⟩]⟩ ∧
      root.toList = [(['a'], ['1']), (['b'], ['2']), ("Input".toList, ['3']), (['x'], ['4'])] ∧
      world.cancelled = false ∧
      ((Block.call ['f'] call).render .standard (Lookup.recorded fun _ _ => some found) root
        (world.recorded [])).2.shared.2 = [⟨found.function, ⟨vars, .standard⟩⟩] ∧
      vars.get? "INPUT".toList = some ['2'] ∧ vars.get? ['b'] = some ['3'] ∧
      vars.get? ['x'] = some [] ∧ vars.get? ['Y'] = some ['q'] ∧
      vars.get? ['a'] = some ['1'] ∧
      vars.names = [['a'], ['b'], "Input".toList, ['x'], ['Y']] := by
  let call : Call := ⟨⟨none, ['f']⟩, some (.var ['a']),
    [⟨"input".toList, .var ['b']⟩, ⟨['b'], .var "input".toList⟩, ⟨['x'], .var "none".toList⟩,
      ⟨['Y'], .var ['a']⟩, ⟨['y'], .literal ⟨.single, ['q']⟩⟩]⟩
  let root : Variables :=
    .ofList [(['a'], ['1']), (['b'], ['2']), ("Input".toList, ['3']), (['x'], ['4'])]
  let found : Match Unit := ⟨[], ⟨['f'], [], fun _ => .finish (.ok [])⟩, []⟩
  let world : World Unit := ⟨(), false, []⟩
  obtain ⟨vars, hstarted, hliteral, hvar, hother, hnames⟩ := arguments_over_root call root
  have hinput : call.Supplies "INPUT".toList (.var ['b']) :=
    @Call.Supplies.named call _ [] (call.named.drop 1) ⟨"input".toList, .var ['b']⟩ rfl
      (by decide) (by decide)
  have hb : call.Supplies ['b'] (.var "input".toList) :=
    @Call.Supplies.named call _ (call.named.take 1) (call.named.drop 2)
      ⟨['b'], .var "input".toList⟩ rfl (by decide) (by decide)
  have hx : call.Supplies ['x'] (.var "none".toList) :=
    @Call.Supplies.named call _ (call.named.take 2) (call.named.drop 3)
      ⟨['x'], .var "none".toList⟩ rfl (by decide) (by decide)
  have hy : call.Supplies ['Y'] (.literal ⟨.single, ['q']⟩) :=
    @Call.Supplies.named call _ (call.named.take 4) [] ⟨['y'], .literal ⟨.single, ['q']⟩⟩ rfl
      (by decide) (by decide)
  refine ⟨call, root, vars, found, world, rfl, rfl, rfl,
    hstarted Unit .standard (fun _ _ => some found) ['f'] world found rfl rfl,
    hvar _ _ hinput, hvar _ _ hb, hvar _ _ hx, hliteral _ _ hy, ?_, ?_⟩
  · exact hother ['a'] (by decide) (by decide)
  · rw [hnames]
    decide +kernel

end Stencil
