import Mathlib.Data.List.Induction
import Stencil.Proofs.Registry.Resolution
import Stencil.Proofs.Variables.History

/-! # Functions added to a plugin

What a plugin lists follows from the history of the functions that were added to it. A name stands
where it was first added, in whatever case, and the function that stands there is the one that was
last added under it, with its own spelling and description. Looking the name up leads to that
function.
-/

namespace Stencil

variable {σ : Type}

/-- The name of a function with its case folded away. -/
def Function.key (function : Function σ) : Text := function.name.fold

theorem Function.key_eq_iff {first second : Function σ} :
    first.key = second.key ↔ first.name.Recased second.name := by
  rw [key, key, ← Text.sameName_iff, Text.sameName_iff_recased]

namespace Plugin

/-! ## One more function -/

theorem find?_insert (added : Function σ) (functions : List (Function σ)) (name : Text) :
    (insert added functions).find? (fun function => function.name.sameName name) =
      if added.name.sameName name then some added
      else functions.find? fun function => function.name.sameName name := by
  induction functions with
  | nil =>
      rw [insert, List.find?_cons]
      cases added.name.sameName name <;> rfl
  | cons other rest ih =>
      rw [insert]
      by_cases hother : other.name.sameName added.name = true
      · -- the function that is replaced had the same name
        rw [if_pos hother, List.find?_cons, List.find?_cons, Text.sameName_congr hother]
        cases added.name.sameName name <;> rfl
      · rw [if_neg hother, List.find?_cons, List.find?_cons, ih]
        cases hname : other.name.sameName name with
        | false => rfl
        | true =>
            have hadded : ¬ added.name.sameName name = true := by
              rwa [Text.sameName_comm, ← Text.sameName_congr hname]
            exact (if_neg hadded).symm

/-- Adding keeps the names that are there, and puts one that is new behind them. -/
theorem map_key_insert (added : Function σ) (functions : List (Function σ)) :
    (insert added functions).map Function.key =
      if added.key ∈ functions.map Function.key then functions.map Function.key
      else functions.map Function.key ++ [added.key] := by
  induction functions with
  | nil => rfl
  | cons other rest ih =>
      rw [insert]
      by_cases hother : other.name.sameName added.name = true
      · have hkey : other.key = added.key := Text.sameName_iff.mp hother
        simp [hother, hkey]
      · have hkey : ¬ added.key = other.key := fun heq => hother (Text.sameName_iff.mpr heq.symm)
        simp only [hother, Bool.false_eq_true, if_false, List.map_cons, ih, List.mem_cons, hkey,
          false_or]
        split
        next => rfl
        next => rfl

theorem get?_add (plugin : Plugin σ) (added : Function σ) (name : Text) :
    (plugin.add added).get? name =
      if added.name.Recased name then some added else plugin.get? name := by
  simp only [← Text.sameName_iff_recased]
  exact find?_insert added plugin.functions name

/-! ## Histories -/

/-- The plugin that has been made from functions that were added one after another. -/
def ofHistory (name description : Text) (history : List (Function σ)) : Plugin σ :=
  history.foldl add (named name description)

theorem ofHistory_concat (name description : Text) (history : List (Function σ))
    (added : Function σ) :
    ofHistory name description (history ++ [added]) =
      (ofHistory name description history).add added := by
  rw [ofHistory, List.foldl_concat]
  rfl

theorem functions_add (plugin : Plugin σ) (added : Function σ) :
    (plugin.add added).functions = insert added plugin.functions := rfl

/-- Of the functions that were added under a name, in whatever case, this is the last. -/
def LastAdded (history : List (Function σ)) (name : Text) (function : Function σ) : Prop :=
  ∃ before after, history = before ++ function :: after ∧ function.name.Recased name ∧
    ∀ later ∈ after, ¬ later.name.Recased name

section

variable {history : List (Function σ)} {added function : Function σ} {name description : Text}

theorem LastAdded.mem (h : LastAdded history name function) : function ∈ history := by
  obtain ⟨before, after, rfl, -⟩ := h
  simp

theorem lastAdded_concat :
    LastAdded (history ++ [added]) name function ↔
      (added = function ∧ function.name.Recased name) ∨
        (¬ added.name.Recased name ∧ LastAdded history name function) := by
  simp only [LastAdded, List.concat_eq_append_cons]
  constructor
  · rintro ⟨before, after, ⟨-, hadded, -⟩ | ⟨rest, rfl, hhistory⟩, hname, hafter⟩
    · exact .inl ⟨hadded, hname⟩
    · obtain ⟨hrest, hlast⟩ := List.forall_mem_append.mp hafter
      exact .inr ⟨hlast added List.mem_cons_self, before, rest, hhistory, hname, hrest⟩
  · rintro (⟨hadded, hname⟩ | ⟨hadded, before, rest, hhistory, hname, hrest⟩)
    · exact ⟨history, [], .inl ⟨rfl, hadded, rfl⟩, hname, List.forall_mem_nil _⟩
    · exact ⟨before, rest ++ [added], .inr ⟨rest, rfl, hhistory⟩, hname,
        List.forall_mem_append.mpr ⟨hrest, List.forall_mem_singleton.mpr hadded⟩⟩

/-- A name leads to the function that was last added under it. -/
theorem get?_ofHistory_eq_some_iff {wanted : Text} :
    (ofHistory name description history).get? wanted = some function ↔
      LastAdded history wanted function := by
  induction history using List.reverseRecOn with
  | nil => simp [ofHistory, named, get?, LastAdded]
  | append_singleton history added ih =>
      rw [ofHistory_concat, get?_add, lastAdded_concat, ← ih]
      by_cases hname : added.name.Recased wanted
      · rw [if_pos hname, Option.some.injEq]
        constructor
        · rintro rfl
          exact .inl ⟨rfl, hname⟩
        · rintro (⟨rfl, -⟩ | ⟨hother, -⟩)
          · rfl
          · exact absurd hname hother
      · rw [if_neg hname]
        constructor
        · exact fun hfound => .inr ⟨hname, hfound⟩
        · rintro (⟨rfl, hsame⟩ | ⟨-, hfound⟩)
          · exact absurd hsame hname
          · exact hfound

/-- A name leads nowhere if no function was added under it. -/
theorem get?_ofHistory_eq_none_iff {wanted : Text} :
    (ofHistory name description history).get? wanted = none ↔
      ∀ function ∈ history, ¬ function.name.Recased wanted := by
  induction history using List.reverseRecOn with
  | nil => simp [ofHistory, named, get?]
  | append_singleton history added ih =>
      rw [ofHistory_concat, get?_add, List.forall_mem_append, ← ih, List.forall_mem_singleton]
      by_cases hname : added.name.Recased wanted
      · simp [hname]
      · simp [hname]

theorem eraseDups_concat (keys : List Text) (key : Text) :
    (keys ++ [key]).eraseDups =
      if key ∈ keys then keys.eraseDups else keys.eraseDups ++ [key] := by
  rw [List.eraseDups_append]
  split
  next hknown => simp [List.removeAll, hknown]
  next hnew => simp [List.removeAll, List.eraseDups_cons, hnew]

/-- The names that are listed are those of the history, each where it was first added. -/
theorem map_key_ofHistory (name description : Text) (history : List (Function σ)) :
    (ofHistory name description history).functions.map Function.key =
      (history.map Function.key).eraseDups := by
  induction history using List.reverseRecOn with
  | nil => rfl
  | append_singleton history added ih =>
      rw [ofHistory_concat, functions_add, map_key_insert, ih, List.map_append, List.map_singleton,
        eraseDups_concat]
      simp only [List.mem_eraseDups]

theorem nodup_key_ofHistory (name description : Text) (history : List (Function σ)) :
    ((ofHistory name description history).functions.map Function.key).Nodup := by
  induction history using List.reverseRecOn with
  | nil => exact List.nodup_nil
  | append_singleton history added ih =>
      rw [ofHistory_concat, functions_add, map_key_insert]
      split
      next => exact ih
      next hnew =>
        refine List.nodup_append.mpr ⟨ih, List.pairwise_singleton _ _, ?_⟩
        rintro key hkey _ hadded rfl
        exact hnew (List.mem_singleton.mp hadded ▸ hkey)

/-- No two functions that are listed have the same name. -/
theorem pairwise_ofHistory (name description : Text) (history : List (Function σ)) :
    (ofHistory name description history).functions.Pairwise fun first second =>
      ¬ first.name.Recased second.name := by
  have hdistinct := List.pairwise_map.mp (nodup_key_ofHistory name description history)
  exact hdistinct.imp fun hkey hrecased => hkey (Function.key_eq_iff.mpr hrecased)

/-- What is listed was last added under its name. -/
theorem lastAdded_of_mem (hmem : function ∈ (ofHistory name description history).functions) :
    LastAdded history function.name function := by
  apply get?_ofHistory_eq_some_iff.mp
  have hpairwise := pairwise_ofHistory name description history
  obtain ⟨before, after, hfunctions⟩ := List.append_of_mem hmem
  rw [hfunctions, List.pairwise_append] at hpairwise
  obtain ⟨-, -, hbefore⟩ := hpairwise
  have hself : function.name.Recased function.name := Function.key_eq_iff.mp rfl
  have hfinds : (ofHistory name description history).Finds function.name function :=
    ⟨after, hself, before, hfunctions,
      fun other hother => hbefore other hother function List.mem_cons_self⟩
  exact hfinds.get?_eq

/-- The listing, name by name in the order in which the names were first added. -/
theorem forall₂_functions_ofHistory (name description : Text) (history : List (Function σ)) :
    List.Forall₂ (fun key function =>
        function.key = key ∧ LastAdded history function.name function)
      (history.map Function.key).eraseDups (ofHistory name description history).functions := by
  rw [← map_key_ofHistory name description history, List.forall₂_map_left_iff, List.forall₂_same]
  exact fun function hmem => ⟨rfl, lastAdded_of_mem hmem⟩

end

/-- Whatever functions are added to a plugin one after another, no two that it lists have the same
name. Looking a name up leads to the function that was last added under it, in whatever case, and
nowhere if none was. The names are listed in the order in which they were first added, and for each
of them the function that was last added under it, as it is. -/
theorem functions_of_history (name description : Text) (history : List (Function σ)) :
    let plugin := history.foldl add (named name description)
    (plugin.functions.Pairwise fun first second => ¬ first.name.Recased second.name) ∧
    (∀ wanted function, plugin.get? wanted = some function ↔ LastAdded history wanted function) ∧
    (∀ wanted, plugin.get? wanted = none ↔
      ∀ function ∈ history, ¬ function.name.Recased wanted) ∧
    List.Forall₂ (fun key function =>
        function.key = key ∧ LastAdded history function.name function)
      (history.map Function.key).eraseDups plugin.functions :=
  ⟨pairwise_ofHistory name description history, fun _ _ => get?_ofHistory_eq_some_iff,
    fun _ => get?_ofHistory_eq_none_iff, forall₂_functions_ofHistory name description history⟩

/-- `TRIM` takes the place of `Trim`, with its own spelling and description. -/
example :
    (([("Trim".toList, ['1']), ("pad".toList, ['2']), ("TRIM".toList, ['3'])].map fun pair =>
        (⟨pair.1, pair.2, fun _ => .finish (.ok [])⟩ : Function Unit)).foldl add
      (named ['p'] [])).functions.map (fun function => (function.name, function.description)) =
        [("TRIM".toList, ['3']), ("pad".toList, ['2'])] := by
  decide +kernel

end Plugin

end Stencil
