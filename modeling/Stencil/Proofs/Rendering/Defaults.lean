import Stencil.Proofs.Rendering.Run
import Stencil.Proofs.Variables.Agreement

/-! # Defaults

The variables that a rendering reads from are those of its caller, unchanged and in their order,
with the declared defaults behind them that the caller left open. Whether a name has a value
decides, not what the value is. Of several defaults for one name the first that is declared counts,
and filling them in once more changes nothing.
-/

namespace Stencil

/-! ## Values for names that have none -/

theorem Entry.write_of_lookup?_eq_none {name : Text} {entries : List Entry}
    (hnone : lookup? name entries = none) (value : Text) :
    write name value entries = entries ++ [⟨name, value⟩] := by
  induction entries with
  | nil => rfl
  | cons entry rest ih =>
      rw [lookup?_cons] at hnone
      split at hnone
      next => cases hnone
      next hname => rw [write, if_neg hname, ih hnone, List.cons_append]

namespace Variables

variable {vars : Variables} {name : Text} {pairs : List (Text × Text)}

/-- A value that is set for a new name stands behind all others. -/
theorem toList_set_of_get?_eq_none (hnone : vars.get? name = none) (value : Text) :
    (vars.set name value).toList = vars.toList ++ [(name, value)] := by
  have hentries : (vars.set name value).entries = vars.entries ++ [⟨name, value⟩] :=
    Entry.write_of_lookup?_eq_none hnone value
  rw [toList, hentries, List.map_append]
  rfl

theorem contains_eq_false_iff : vars.contains name = false ↔ vars.get? name = none := by
  rw [contains, Option.isSome_eq_false_iff, Option.isNone_iff_eq_none]

/-- The variables with values set one after another, each unless its name has a value already. -/
def fill (vars : Variables) (pairs : List (Text × Text)) : Variables :=
  pairs.foldl (fun result pair =>
    if result.contains pair.1 then result else result.set pair.1 pair.2) vars

theorem fill_cons (vars : Variables) (pair : Text × Text) (rest : List (Text × Text)) :
    vars.fill (pair :: rest) =
      if vars.contains pair.1 then vars.fill rest else (vars.set pair.1 pair.2).fill rest := by
  rw [fill, List.foldl_cons]
  split
  next => rfl
  next => rfl

/-- What has been filled in stands behind the rest in its order: the pairs whose names had no value,
and of several for one name the first. -/
theorem toList_fill (vars : Variables) (pairs : List (Text × Text)) :
    (vars.fill pairs).toList =
      vars.toList ++ (pairs.filter fun pair => !vars.contains pair.1).eraseDupsBy
        fun later earlier => later.1.sameName earlier.1 := by
  induction pairs generalizing vars with
  | nil => simp [fill, List.eraseDupsBy_nil]
  | cons pair rest ih =>
      rw [fill_cons]
      cases hcontains : vars.contains pair.1 with
      | true => simp [hcontains, ih]
      | false =>
          have hnone := contains_eq_false_iff.mp hcontains
          simp [hcontains, ih, toList_set_of_get?_eq_none hnone, contains_set,
            List.eraseDupsBy_cons, List.filter_filter, Text.not_sameName_comm pair.1]

/-- A name that has a value keeps it, and another gets the first that is given for it. -/
theorem get?_fill (vars : Variables) (pairs : List (Text × Text)) (name : Text) :
    (vars.fill pairs).get? name =
      (vars.get? name).or ((pairs.find? fun pair => pair.1.sameName name).map Prod.snd) := by
  induction pairs generalizing vars with
  | nil => simp [fill]
  | cons pair rest ih =>
      rw [fill_cons, List.find?_cons]
      cases hname : pair.1.sameName name with
      | false =>
          split
          next => exact ih vars
          next => rw [ih, get?_set, hname, if_neg Bool.false_ne_true]
      | true =>
          rw [← vars.get?_congr hname]
          cases hvalue : vars.get? pair.1 with
          | some value =>
              rw [if_pos (by simp [contains, hvalue]), ih, ← vars.get?_congr hname, hvalue]
              rfl
          | none =>
              rw [if_neg (by simp [contains, hvalue]), ih, get?_set, if_pos hname]
              rfl

theorem fill_eq_self (hset : ∀ pair ∈ pairs, vars.contains pair.1 = true) :
    vars.fill pairs = vars := by
  induction pairs with
  | nil => rfl
  | cons pair rest ih =>
      obtain ⟨hfirst, hrest⟩ := List.forall_mem_cons.mp hset
      rw [fill_cons, if_pos hfirst, ih hrest]

theorem fill_fill (vars : Variables) (pairs : List (Text × Text)) :
    (vars.fill pairs).fill pairs = vars.fill pairs := by
  apply fill_eq_self
  intro pair hmem
  have hfound : (pairs.find? fun other => other.1.sameName pair.1).isSome = true :=
    List.find?_isSome.mpr ⟨pair, hmem, Text.sameName_refl pair.1⟩
  rw [contains, get?_fill, Option.isSome_or, Option.isSome_map, hfound, Bool.or_true]

end Variables

/-! ## Declared defaults -/

namespace Config

/-- The defaults that the parameters declare, each with its name, in order. -/
def defaults (config : Config) : List (Text × Text) :=
  config.parameters.filterMap fun parameter =>
    parameter.default.map fun value => (parameter.name, value)

theorem seed_eq_fill (config : Config) (vars : Variables) :
    config.seed vars = vars.fill config.defaults := by
  rw [seed, Variables.fill, defaults, List.foldl_filterMap]
  congr 1
  funext root parameter
  cases parameter.default with
  | none => rfl
  | some value => rfl

/-- The defaults have nothing to fill in where all that has one is set. -/
theorem seed_eq_self {config : Config} {vars : Variables}
    (hset : ∀ parameter ∈ config.parameters, parameter.default ≠ none →
      vars.contains parameter.name = true) : config.seed vars = vars := by
  rw [seed_eq_fill]
  apply Variables.fill_eq_self
  intro pair hmem
  obtain ⟨parameter, hparameter, hpair⟩ := List.mem_filterMap.mp hmem
  obtain ⟨value, hdefault, rfl⟩ := Option.map_eq_some_iff.mp hpair
  exact hset parameter hparameter (by simp [hdefault])

end Config

/-- Blocks are rendered from the caller's variables, all of them as they are and in their order,
with the declared defaults behind them, in declared order, whose names the caller has not set: of
several for one name the first. So a name that the caller has set has the caller's value, and any
other has the first default that is declared for it. Filling the defaults in once more changes
nothing. -/
theorem defaults_behind_caller (config : Config) (vars : Variables) :
    ∃ root : Variables,
      (∀ (σ : Type) (lookup : Lookup σ) (blocks : List Block) (world next : World σ)
          (result : Except RenderError Text) (starts : List (Start σ)),
        (config.render lookup vars blocks world = (result, next) ∧
            config.started lookup vars blocks world = starts) ↔
          Block.Ends config lookup root world blocks result starts next) ∧
      root.toList = vars.toList ++
        (config.defaults.filter fun pair => !vars.contains pair.1).eraseDupsBy
          (fun later earlier => later.1.sameName earlier.1) ∧
      (∀ name, root.get? name = (vars.get? name).or
        ((config.defaults.find? fun pair => pair.1.sameName name).map Prod.snd)) ∧
      config.seed root = root := by
  refine ⟨config.seed vars, fun σ lookup blocks world next result starts =>
    Config.render_iff_ends, ?_, fun name => ?_, ?_⟩
  · rw [config.seed_eq_fill, Variables.toList_fill]
  · rw [config.seed_eq_fill, Variables.get?_fill]
  · rw [config.seed_eq_fill, config.seed_eq_fill, Variables.fill_fill]

/-- The caller's `tone` stays as it is although it is empty, and of the declarations of `x` the
first that has a default counts. -/
example :
    (Config.seed { Config.standard with parameters := [⟨"Tone".toList, [], some ['t']⟩,
        ⟨['X'], [], none⟩, ⟨['x'], [], some ['1']⟩, ⟨['X'], [], some ['2']⟩] }
      (.ofList [("tone".toList, []), (['a'], ['0'])])).toList =
        [("tone".toList, []), (['a'], ['0']), (['x'], ['1'])] := by
  decide +kernel

end Stencil
