import Mathlib.Data.List.TakeWhile
import Stencil.Cli.Assignment
import Stencil.Proofs.Expression.Grammar
import Stencil.Proofs.Rendering.Arguments

/-! # Variables set on a command line

An argument sets a variable if it is a name, an equals sign and any text. The name ends at the first
equals sign, as no name has one. Of the arguments that set one name, in whatever case they spell it,
the last gives the value, and the first gives the spelling and the place. A main input that is
given apart is one more value for its name, behind all others.
-/

namespace Stencil

open Grammar

namespace Cli

/-! ## One argument -/

/-- Why an argument sets no variable: it has no equals sign, or what stands before the first one is
no name. -/
inductive AssignmentError.Faults : AssignmentError → Text → Prop where
  | noSign {argument : Text} (hsign : '=' ∉ argument) : Faults (.noSign argument) argument
  | invalidName {name value : Text} (hfirst : '=' ∉ name) (hname : ¬ Name name) :
      Faults (.invalidName name) (name ++ '=' :: value)

theorem equals_notMem_of_name {name : Text} (hname : Name name) : '=' ∉ name :=
  fun hmem => absurd (hname.2 _ hmem) (by decide)

/-- An argument has no equals sign, or a first one. -/
theorem signless_or_first_sign (argument : Text) :
    '=' ∉ argument ∨ ∃ name value, argument = name ++ '=' :: value ∧ '=' ∉ name := by
  by_cases hsign : '=' ∈ argument
  · obtain ⟨name, value, hargument, hfirst⟩ := List.eq_append_cons_of_mem hsign
    exact .inr ⟨name, value, hargument, hfirst⟩
  · exact .inl hsign

theorem readAssignment_signless {argument : Text} (hsign : '=' ∉ argument) :
    readAssignment argument = .error (.noSign argument) := by
  have hdrop : argument.dropWhile (· != '=') = [] := by
    rw [List.dropWhile_eq_nil_iff]
    intro c hc
    rw [bne_iff_ne]
    rintro rfl
    exact hsign hc
  rw [readAssignment, hdrop]

theorem readAssignment_split {name : Text} (hfirst : '=' ∉ name) (value : Text) :
    readAssignment (name ++ '=' :: value) =
      if isName name then .ok (name, value) else .error (.invalidName name) := by
  have hname : ∀ c ∈ name, (c != '=') = true := by
    intro c hc
    rw [bne_iff_ne]
    rintro rfl
    exact hfirst hc
  have hdrop : (name ++ '=' :: value).dropWhile (· != '=') = '=' :: value := by
    rw [List.dropWhile_append_of_pos hname]
    rfl
  have htake : (name ++ '=' :: value).takeWhile (· != '=') = name := by
    rw [List.takeWhile_append_of_pos hname]
    exact List.append_nil name
  rw [readAssignment, hdrop, htake]

/-- An argument sets a variable exactly if it is a name, an equals sign and the value. -/
theorem readAssignment_eq_ok {argument name value : Text} :
    readAssignment argument = .ok (name, value) ↔
      argument = name ++ '=' :: value ∧ Name name := by
  constructor
  · intro h
    rcases signless_or_first_sign argument with hsign | ⟨front, back, rfl, hfirst⟩
    · rw [readAssignment_signless hsign] at h
      cases h
    · rw [readAssignment_split hfirst] at h
      split at h
      next hname =>
        cases h
        exact ⟨rfl, isName_iff.mp hname⟩
      next => cases h
  · rintro ⟨rfl, hname⟩
    rw [readAssignment_split (equals_notMem_of_name hname), if_pos (isName_iff.mpr hname)]

theorem readAssignment_eq_error {argument : Text} {error : AssignmentError} :
    readAssignment argument = .error error ↔ error.Faults argument := by
  constructor
  · intro h
    rcases signless_or_first_sign argument with hsign | ⟨name, value, rfl, hfirst⟩
    · rw [readAssignment_signless hsign] at h
      cases h
      exact .noSign hsign
    · rw [readAssignment_split hfirst] at h
      split at h
      next => cases h
      next hname =>
        cases h
        exact .invalidName hfirst fun hvalid => hname (isName_iff.mpr hvalid)
  · intro faults
    cases faults with
    | noSign hsign => exact readAssignment_signless hsign
    | invalidName hfirst hname =>
        rw [readAssignment_split hfirst, if_neg fun hvalid => hname (isName_iff.mp hvalid)]

/-- Arguments all set variables exactly if each is written from a name and a value. -/
theorem mapM_readAssignment_eq_ok {arguments : List Text} {pairs : List (Text × Text)} :
    arguments.mapM readAssignment = .ok pairs ↔
      (arguments = pairs.map fun pair => pair.1 ++ '=' :: pair.2) ∧
        ∀ pair ∈ pairs, Name pair.1 := by
  induction arguments generalizing pairs with
  | nil =>
      constructor
      · intro h
        cases h
        exact ⟨rfl, List.forall_mem_nil _⟩
      · rintro ⟨h, -⟩
        rw [List.map_eq_nil_iff.mp h.symm]
        rfl
  | cons argument rest ih =>
      rw [List.mapM_cons]
      constructor
      · intro h
        obtain ⟨⟨name, value⟩, hfirst, h⟩ := Result.bind_eq_ok.mp h
        obtain ⟨others, hothers, h⟩ := Result.bind_eq_ok.mp h
        cases h
        obtain ⟨rfl, hname⟩ := readAssignment_eq_ok.mp hfirst
        obtain ⟨rfl, hnames⟩ := ih.mp hothers
        exact ⟨rfl, List.forall_mem_cons.mpr ⟨hname, hnames⟩⟩
      · rintro ⟨h, hnames⟩
        obtain ⟨⟨name, value⟩, others, rfl, rfl, hrest⟩ := List.map_eq_cons_iff.mp h.symm
        obtain ⟨hname, hothers⟩ := List.forall_mem_cons.mp hnames
        rw [readAssignment_eq_ok.mpr ⟨rfl, hname⟩, ih.mpr ⟨hrest.symm, hothers⟩]
        rfl

end Cli

/-! ## All of them -/

namespace Variables

variable {pairs : List (Text × Text)} {name value : Text}

theorem ofList_eq_replay (pairs : List (Text × Text)) :
    ofList pairs = empty.replay (Change.writes pairs) := extend_eq_replay empty pairs

/-- Values set one after another leave each name once, where it is first set and as it is spelt
there. -/
theorem names_ofList (pairs : List (Text × Text)) :
    (ofList pairs).names = (pairs.map Prod.fst).eraseDupsBy Text.sameName := by
  have hnames := names_extend empty pairs
  have hfilter : (pairs.map Prod.fst).filter (fun name => !empty.contains name) =
      pairs.map Prod.fst := List.filter_eq_self.mpr fun _ _ => rfl
  rw [hfilter] at hnames
  exact hnames

/-- Where nothing is removed, a name has no value if no value is set for it. -/
theorem cleared_writes_iff :
    Cleared (Change.writes pairs) name ↔ ∀ pair ∈ pairs, ¬ pair.1.Recased name := by
  constructor
  · intro hcleared pair hpair hname
    obtain ⟨before, after, rfl⟩ := List.append_of_mem hpair
    have hwrites : Change.writes (before ++ pair :: after) =
        Change.writes before ++ .write pair.1 pair.2 :: Change.writes after := List.map_append
    obtain ⟨removed, hmem, -⟩ := hcleared _ _ _ _ hwrites hname
    obtain ⟨_, -, hwrite⟩ := List.mem_map.mp hmem
    cases hwrite
  · intro hnone before spelling value after hwrites hspelling
    have hmem : .write spelling value ∈ Change.writes pairs := by simp [hwrites]
    obtain ⟨pair, hpair, hwrite⟩ := List.mem_map.mp hmem
    cases hwrite
    exact absurd hspelling (hnone pair hpair)

end Variables

namespace Cli

variable {pairs : List (Text × Text)} {input : Option Text} {name value : Text}

/-- The changes that a command line makes: those of its arguments, and behind them the one of a main
input that is given apart. -/
def history (pairs : List (Text × Text)) (input : Option Text) : List Variables.Change :=
  Variables.Change.writes pairs ++ (input.map (Variables.Change.write Variables.inputName)).toList

theorem gather_eq_replay (pairs : List (Text × Text)) (input : Option Text) :
    gather pairs input = Variables.empty.replay (history pairs input) := by
  rw [history, Variables.replay_append, ← Variables.ofList_eq_replay]
  cases input <;> rfl

/-- A main input given apart decides over its name, and the arguments over all others. -/
theorem get?_gather_eq_some_iff :
    (gather pairs input).get? name = some value ↔
      (input = some value ∧ Text.Recased "input".toList name) ∨
        ((input = none ∨ ¬ Text.Recased "input".toList name) ∧
          Variables.LastWritten (Variables.Change.writes pairs) name value) := by
  rw [gather_eq_replay, Variables.get?_replay_eq_some_iff, history]
  cases input with
  | none => simp
  | some text =>
      rw [Option.map_some, Option.toList_some, Variables.lastWritten_concat]
      simp [Variables.Change.name, Variables.inputName]

theorem get?_gather_eq_none_iff :
    (gather pairs input).get? name = none ↔
      (input = none ∨ ¬ Text.Recased "input".toList name) ∧
        ∀ pair ∈ pairs, ¬ pair.1.Recased name := by
  rw [gather_eq_replay, Variables.get?_replay_eq_none_iff, history,
    ← Variables.cleared_writes_iff]
  cases input with
  | none => simp
  | some text =>
      rw [Option.map_some, Option.toList_some, Variables.cleared_concat]
      simp [Variables.Change.name, Variables.inputName]

/-- The names stand as the arguments set them first, and that of a main input given apart comes
behind them if no argument has it. -/
theorem names_gather (pairs : List (Text × Text)) (input : Option Text) :
    (gather pairs input).names = (pairs.map Prod.fst).eraseDupsBy Text.sameName ++
      if input = none ∨ ∃ pair ∈ pairs, pair.1.Recased "input".toList then []
      else ["input".toList] := by
  cases input with
  | none =>
      rw [if_pos (.inl rfl), List.append_nil]
      exact Variables.names_ofList pairs
  | some value =>
      have hnone : (Variables.ofList pairs).get? "input".toList = none ↔
          ¬ ∃ pair ∈ pairs, pair.1.Recased "input".toList := by
        rw [Variables.ofList_eq_replay, Variables.get?_replay_eq_none_iff,
          Variables.cleared_writes_iff]
        simp
      have hset := (Variables.ofList pairs).names_set "input".toList value
      rw [Variables.names_ofList] at hset
      refine hset.trans ?_
      by_cases hnamed : ∃ pair ∈ pairs, pair.1.Recased "input".toList
      · rw [if_neg fun h => hnone.mp h hnamed, if_pos (.inr hnamed), List.append_nil]
      · rw [if_pos (hnone.mpr hnamed), if_neg]
        rintro (habsent | hpair)
        · cases habsent
        · exact hnamed hpair

/-- An argument sets a variable exactly if it is a name, an equals sign and the value, which may be
any text; all else is an error, for the want of a sign or of a name before the first one. Of the
variables that a command line sets, the main input has the value that is given for it apart, if one
is. Any other name has the value of the last argument for it, in whatever case that spells it, and
without such an argument it has none. The names stand in the order and the spelling in which they
are first set, and a main input given apart comes last unless an argument has set it. -/
theorem variables_as_written :
    (∀ argument name value, readAssignment argument = .ok (name, value) ↔
      argument = name ++ '=' :: value ∧ Name name) ∧
    (∀ argument, (∃ error, readAssignment argument = .error error) ↔
      ¬ ∃ name value, argument = name ++ '=' :: value ∧ Name name) ∧
    (∀ argument error, readAssignment argument = .error error ↔ error.Faults argument) ∧
    (∀ (arguments : List Text) (pairs : List (Text × Text)),
      arguments.mapM readAssignment = .ok pairs ↔
        (arguments = pairs.map fun pair => pair.1 ++ '=' :: pair.2) ∧
          ∀ pair ∈ pairs, Name pair.1) ∧
    ∀ (pairs : List (Text × Text)) (input : Option Text),
      (∀ name value, (gather pairs input).get? name = some value ↔
        (input = some value ∧ Text.Recased "input".toList name) ∨
          ((input = none ∨ ¬ Text.Recased "input".toList name) ∧
            Variables.LastWritten (Variables.Change.writes pairs) name value)) ∧
      (∀ name, (gather pairs input).get? name = none ↔
        (input = none ∨ ¬ Text.Recased "input".toList name) ∧
          ∀ pair ∈ pairs, ¬ pair.1.Recased name) ∧
      (gather pairs input).toList.map Prod.fst =
        (pairs.map Prod.fst).eraseDupsBy Text.sameName ++
          if input = none ∨ ∃ pair ∈ pairs, pair.1.Recased "input".toList then []
          else ["input".toList] := by
  refine ⟨fun _ _ _ => readAssignment_eq_ok, fun argument => ?_,
    fun _ _ => readAssignment_eq_error, fun _ _ => mapM_readAssignment_eq_ok,
    fun pairs input => ⟨fun _ _ => get?_gather_eq_some_iff, fun _ => get?_gather_eq_none_iff, ?_⟩⟩
  · simp only [← readAssignment_eq_ok]
    cases readAssignment argument with
    | error error => simp
    | ok pair =>
        obtain ⟨name, value⟩ := pair
        simp
  · rw [Variables.map_fst_toList]
    exact names_gather pairs input

/-- The value of an argument starts behind its first equals sign and may be empty, and an input that
is given apart takes the place of one that is named. -/
example :
    readAssignment "a=b=c".toList = .ok (['a'], "b=c".toList) ∧
    readAssignment "a=".toList = .ok (['a'], []) ∧
    readAssignment "a b=c".toList = .error (.invalidName "a b".toList) ∧
    (gather [("Input".toList, ['1']), (['x'], ['2']), (['X'], ['3'])] (some ['4'])).toList =
      [("Input".toList, ['4']), (['x'], ['3'])] := by
  decide +kernel

end Cli

end Stencil
