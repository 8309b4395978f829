import Mathlib.Data.List.Induction
import Stencil.Proofs.List
import Stencil.Proofs.Text.Recasing
import Stencil.Proofs.Variables.Lookup

/-! # Variables after a history

Variables are an ordered map, and what they hold follows from the history of their changes by
three rules. The value of a name is that of its last write, the spelling that of the write that
introduced it, and the order is that of the introductions. A removal undoes all three, so a name
that is written again afterwards comes last and in its new spelling. The rules are stated of the
history alone; each is proved by what one more change at its end does.
-/

namespace Stencil

/-! ## One change -/

namespace Entry

variable {name value : Text} {entries : List Entry}

theorem lookup?_erase (name : Text) (entries : List Entry) (other : Text) :
    lookup? other (erase name entries) =
      if name.sameName other then none else lookup? other entries := by
  induction entries with
  | nil => simp [erase, lookup?]
  | cons entry rest ih =>
      rw [erase] at ih ⊢
      by_cases hname : entry.name.sameName name = true
      · rw [List.filter_cons_of_neg (by simp [hname]), ih, lookup?_cons,
          Text.sameName_congr hname]
        split
        next => rfl
        next => rfl
      · rw [List.filter_cons_of_pos (by simp [hname]), lookup?_cons, ih, lookup?_cons]
        by_cases hother : name.sameName other = true
        · have hentry : ¬ entry.name.sameName other = true := by
            rwa [← Text.sameName_congr_right hother]
          simp [hentry, hother]
        · simp [hother]

/-- Of entries with different names, what is taken out is the value that a name has, and all other
entries stay. -/
theorem takeOut_eq (hdistinct : (entries.map key).Nodup) :
    takeOut name entries = (lookup? name entries, erase name entries) := by
  induction entries with
  | nil => rfl
  | cons entry rest ih =>
      obtain ⟨hentry, hrest⟩ := List.nodup_cons.mp hdistinct
      rw [takeOut, lookup?_cons, erase]
      by_cases hname : entry.name.sameName name = true
      · have hothers : ∀ other ∈ rest, other.name.sameName name = false := by
          intro other hother
          rw [← Bool.not_eq_true]
          intro hsame
          apply hentry
          rw [key, (Text.sameName_iff.mp hname).trans (Text.sameName_iff.mp hsame).symm]
          exact List.mem_map_of_mem hother
        rw [if_pos hname, if_pos hname, List.filter_cons_of_neg (by simp [hname]),
          List.filter_eq_self.mpr fun other hother => by simp [hothers other hother]]
      · rw [if_neg hname, if_neg hname, ih hrest, List.filter_cons_of_pos (by simp [hname])]
        rfl

/-- Writing keeps the spellings that are there, and adds the one written if the name is new. -/
theorem map_name_write (name value : Text) (entries : List Entry) :
    (write name value entries).map Entry.name =
      if lookup? name entries = none then entries.map Entry.name ++ [name]
      else entries.map Entry.name := by
  induction entries with
  | nil => rfl
  | cons entry rest ih =>
      rw [write, lookup?_cons]
      by_cases hname : entry.name.sameName name = true
      · simp [hname]
      · simp only [hname, Bool.false_eq_true, if_false, List.map_cons, ih]
        split
        next => rfl
        next => rfl

theorem map_name_erase (name : Text) (entries : List Entry) :
    (erase name entries).map Entry.name =
      (entries.map Entry.name).filter fun spelling => !spelling.sameName name := by
  rw [List.filter_map]
  rfl

end Entry

namespace Variables

/-- Removing gives the value that the name had and takes its entry away. -/
theorem remove_eq (vars : Variables) (name : Text) :
    vars.remove name = (vars.get? name, vars.erase name) := by
  have hentries := @Entry.takeOut_eq name vars.entries vars.distinct
  rw [remove, get?, erase]
  simp only [hentries]

theorem get?_erase (vars : Variables) (name other : Text) :
    (vars.erase name).get? other = if name.sameName other then none else vars.get? other :=
  Entry.lookup?_erase name vars.entries other

/-- The spellings of the names, in order. -/
def names (vars : Variables) : List Text := vars.entries.map Entry.name

theorem map_fst_toList (vars : Variables) : vars.toList.map Prod.fst = vars.names := by
  rw [toList, List.map_map]
  rfl

theorem names_set (vars : Variables) (name value : Text) :
    (vars.set name value).names =
      if vars.get? name = none then vars.names ++ [name] else vars.names :=
  Entry.map_name_write name value vars.entries

theorem names_erase (vars : Variables) (name : Text) :
    (vars.erase name).names = vars.names.filter fun spelling => !spelling.sameName name :=
  Entry.map_name_erase name vars.entries

/-! ## Histories -/

/-- A change to the value of one name. -/
inductive Change where
  | write (name value : Text)
  | remove (name : Text)

def Change.name : Change → Text
  | write name _ => name
  | remove name => name

/-- The value that the name has after the change. -/
def Change.value? : Change → Option Text
  | write _ value => some value
  | remove _ => none

def Change.apply (vars : Variables) : Change → Variables
  | write name value => vars.set name value
  | remove name => (vars.remove name).2

/-- An operation that changes variables. -/
inductive Operation where
  | set (name value : Text)
  | setInput (value : Text)
  | extend (pairs : List (Text × Text))
  | remove (name : Text)

def Operation.apply (vars : Variables) : Operation → Variables
  | set name value => vars.set name value
  | setInput value => vars.setInput value
  | extend pairs => vars.extend pairs
  | remove name => (vars.remove name).2

/-- The writes of pairs one after another. -/
def Change.writes (pairs : List (Text × Text)) : List Change :=
  pairs.map fun pair => .write pair.1 pair.2

/-- The changes that an operation makes, in order. -/
def Operation.changes : Operation → List Change
  | set name value => [.write name value]
  | setInput value => [.write inputName value]
  | extend pairs => Change.writes pairs
  | remove name => [.remove name]

/-- The variables after operations one after another. -/
def run (vars : Variables) (operations : List Operation) : Variables :=
  operations.foldl Operation.apply vars

/-- The variables after changes one after another. -/
def replay (vars : Variables) (changes : List Change) : Variables :=
  changes.foldl Change.apply vars

theorem replay_append (vars : Variables) (first second : List Change) :
    vars.replay (first ++ second) = (vars.replay first).replay second := List.foldl_append

theorem extend_eq_replay (vars : Variables) (pairs : List (Text × Text)) :
    vars.extend pairs = vars.replay (Change.writes pairs) := by
  rw [extend, replay, Change.writes, List.foldl_map]
  rfl

/-- Operations do what their changes do one by one. -/
theorem run_eq_replay (vars : Variables) (operations : List Operation) :
    vars.run operations = vars.replay (operations.flatMap Operation.changes) := by
  induction operations generalizing vars with
  | nil => rfl
  | cons operation rest ih =>
      rw [List.flatMap_cons, replay_append, ← ih]
      cases operation with
      | extend pairs => exact congrArg (run · rest) (extend_eq_replay vars pairs)
      | _ => rfl

/-- The last change to a name, in whatever case it is spelt, is a write of this value. -/
def LastWritten (history : List Change) (name value : Text) : Prop :=
  ∃ before spelling after, history = before ++ .write spelling value :: after ∧
    spelling.Recased name ∧ ∀ change ∈ after, ¬ change.name.Recased name

/-- Every write of a name is followed by a removal of it. -/
def Cleared (history : List Change) (name : Text) : Prop :=
  ∀ before spelling value after, history = before ++ .write spelling value :: after →
    spelling.Recased name → ∃ removed, .remove removed ∈ after ∧ removed.Recased name

/-- The change at a position writes a name that has no value there, and the name is not removed
afterwards. -/
def Introduced (history : List Change) (position : Nat) (name : Text) : Prop :=
  ∃ before value after, history = before ++ .write name value :: after ∧
    before.length = position ∧ Cleared before name ∧
    ∀ removed, .remove removed ∈ after → ¬ removed.Recased name

/-! ## One more change -/

section

variable {history : List Change} {change : Change} {name value : Text}

theorem lastWritten_concat :
    LastWritten (history ++ [change]) name value ↔
      (∃ spelling, change = .write spelling value ∧ spelling.Recased name) ∨
        (¬ change.name.Recased name ∧ LastWritten history name value) := by
  simp only [LastWritten, List.concat_eq_append_cons]
  constructor
  · rintro ⟨before, spelling, after, ⟨-, hchange, -⟩ | ⟨rest, rfl, hhistory⟩, hspelling, hafter⟩
    · exact .inl ⟨spelling, hchange, hspelling⟩
    · obtain ⟨hrest, hlast⟩ := List.forall_mem_append.mp hafter
      have hchange := hlast change List.mem_cons_self
      exact .inr ⟨hchange, before, spelling, rest, hhistory, hspelling, hrest⟩
  · rintro (⟨spelling, hchange, hspelling⟩ | ⟨hchange, before, spelling, rest, hhistory, hspelling,
      hrest⟩)
    · exact ⟨history, spelling, [], .inl ⟨rfl, hchange, rfl⟩, hspelling, List.forall_mem_nil _⟩
    · exact ⟨before, spelling, rest ++ [change], .inr ⟨rest, rfl, hhistory⟩, hspelling,
        List.forall_mem_append.mpr ⟨hrest, List.forall_mem_singleton.mpr hchange⟩⟩

/-- A write of the name undoes that it is cleared, and a removal of it clears it. -/
theorem cleared_concat :
    Cleared (history ++ [change]) name ↔
      (∃ removed, change = .remove removed ∧ removed.Recased name) ∨
        (¬ change.name.Recased name ∧ Cleared history name) := by
  simp only [Cleared, List.concat_eq_append_cons]
  by_cases hname : change.name.Recased name
  · cases change with
    | write spelling value =>
        constructor
        · intro h
          obtain ⟨removed, hmem, -⟩ := h history spelling value [] (.inl ⟨rfl, rfl, rfl⟩) hname
          cases hmem
        · rintro (⟨removed, hremoved, -⟩ | ⟨hother, -⟩)
          · cases hremoved
          · exact absurd hname hother
    | remove removed =>
        refine ⟨fun _ => .inl ⟨removed, rfl, hname⟩, fun _ => ?_⟩
        rintro before spelling value after (⟨-, hwrite, -⟩ | ⟨rest, rfl, -⟩) -
        · cases hwrite
        · exact ⟨removed, List.mem_append_right rest List.mem_cons_self, hname⟩
  · constructor
    · refine fun h => .inr ⟨hname, fun before spelling value rest hhistory hspelling => ?_⟩
      obtain ⟨removed, hmem, hremoved⟩ :=
        h before spelling value (rest ++ [change]) (.inr ⟨rest, rfl, hhistory⟩) hspelling
      rcases List.mem_append.mp hmem with hrest | hlast
      · exact ⟨removed, hrest, hremoved⟩
      · rw [← List.mem_singleton.mp hlast] at hname
        exact absurd hremoved hname
    · rintro (⟨removed, rfl, hremoved⟩ | ⟨-, hcleared⟩)
      · exact absurd hremoved hname
      · rintro before spelling value after (⟨-, rfl, -⟩ | ⟨rest, rfl, hhistory⟩) hspelling
        · exact absurd hspelling hname
        · obtain ⟨removed, hmem, hremoved⟩ := hcleared before spelling value rest hhistory hspelling
          exact ⟨removed, List.mem_append_left _ hmem, hremoved⟩

theorem introduced_concat {position : Nat} :
    Introduced (history ++ [change]) position name ↔
      (position = history.length ∧ (∃ value, change = .write name value) ∧ Cleared history name) ∨
        (Introduced history position name ∧
          ∀ removed, change = .remove removed → ¬ removed.Recased name) := by
  simp only [Introduced, List.concat_eq_append_cons]
  constructor
  · rintro ⟨before, value, after, ⟨rfl, hchange, -⟩ | ⟨rest, rfl, hhistory⟩, rfl, hcleared, hkept⟩
    · exact .inl ⟨rfl, ⟨value, hchange⟩, hcleared⟩
    · refine .inr ⟨⟨before, value, rest, hhistory, rfl, hcleared, ?_⟩, ?_⟩
      · exact fun removed hmem => hkept removed (List.mem_append_left _ hmem)
      · rintro removed rfl
        exact hkept removed (List.mem_append_right _ List.mem_cons_self)
  · rintro (⟨rfl, ⟨value, hchange⟩, hcleared⟩ |
      ⟨⟨before, value, rest, hhistory, hposition, hcleared, hkept⟩, hchange⟩)
    · exact ⟨history, value, [], .inl ⟨rfl, hchange, rfl⟩, rfl, hcleared,
        fun removed hmem => by cases hmem⟩
    · refine ⟨before, value, rest ++ [change], .inr ⟨rest, rfl, hhistory⟩, hposition, hcleared, ?_⟩
      intro removed hmem
      rcases List.mem_append.mp hmem with hrest | hlast
      · exact hkept removed hrest
      · exact hchange removed (List.mem_singleton.mp hlast).symm

theorem Introduced.lt_length {position : Nat} (h : Introduced history position name) :
    position < history.length := by
  obtain ⟨before, value, after, rfl, rfl, -⟩ := h
  simp

end

/-! ## What the variables hold -/

section

variable {history : List Change} {name value : Text}

theorem replay_concat (vars : Variables) (history : List Change) (change : Change) :
    vars.replay (history ++ [change]) = change.apply (vars.replay history) :=
  replay_append vars history [change]

/-- A change decides the value of its name and leaves those of other names. -/
theorem get?_apply (vars : Variables) (change : Change) (name : Text) :
    (change.apply vars).get? name =
      if change.name.Recased name then change.value? else vars.get? name := by
  simp only [← Text.sameName_iff_recased]
  cases change with
  | write spelling value => exact get?_set vars spelling value name
  | remove spelling =>
      rw [Change.apply, remove_eq]
      exact get?_erase vars spelling name

/-- A name has the value that its last change wrote. -/
theorem get?_replay_eq_some_iff :
    (empty.replay history).get? name = some value ↔ LastWritten history name value := by
  induction history using List.reverseRecOn with
  | nil => simp [replay, empty, get?, Entry.lookup?, LastWritten]
  | append_singleton history change ih =>
      rw [replay_concat, get?_apply, lastWritten_concat, ← ih]
      by_cases hname : change.name.Recased name
      · rw [if_pos hname]
        cases change <;> simp_all [Change.value?, Change.name]
      · rw [if_neg hname]
        cases change <;> simp_all [Change.name]

/-- A name has no value if all its writes have been removed. -/
theorem get?_replay_eq_none_iff :
    (empty.replay history).get? name = none ↔ Cleared history name := by
  induction history using List.reverseRecOn with
  | nil => simp [replay, empty, get?, Entry.lookup?, Cleared]
  | append_singleton history change ih =>
      rw [replay_concat, get?_apply, cleared_concat, ← ih]
      by_cases hname : change.name.Recased name
      · rw [if_pos hname]
        cases change <;> simp_all [Change.value?, Change.name]
      · rw [if_neg hname]
        cases change <;> simp_all [Change.name]

/-- The names stand in the order in which they were introduced, and in the spelling that
introduced them. -/
theorem exists_introductions (history : List Change) :
    ∃ introductions : List (Nat × Text),
      introductions.map Prod.snd = (empty.replay history).names ∧
        (introductions.map Prod.fst).Pairwise (· < ·) ∧
        ∀ position name,
          (position, name) ∈ introductions ↔ Introduced history position name := by
  induction history using List.reverseRecOn with
  | nil => exact ⟨[], rfl, .nil, by simp [Introduced]⟩
  | append_singleton history change ih =>
      obtain ⟨introductions, hnames, hordered, hintroduced⟩ := ih
      rw [replay_concat]
      cases change with
      | write spelling value =>
          by_cases hcleared : Cleared history spelling
          · -- a new name comes last
            refine ⟨introductions ++ [(history.length, spelling)], ?_, ?_, ?_⟩
            · rw [Change.apply, names_set, if_pos (get?_replay_eq_none_iff.mpr hcleared),
                List.map_append, hnames]
              rfl
            · rw [List.map_append, List.pairwise_append]
              refine ⟨hordered, List.pairwise_singleton _ _, ?_⟩
              simp only [List.mem_map, List.map_cons, List.map_nil, List.mem_singleton]
              rintro _ ⟨⟨position, name⟩, hmem, rfl⟩ _ rfl
              exact ((hintroduced position name).mp hmem).lt_length
            · intro position name
              simp only [introduced_concat, List.mem_append, List.mem_singleton, hintroduced,
                Prod.mk.injEq, Change.write.injEq]
              grind
          · -- a name that has a value keeps its place and its spelling
            refine ⟨introductions, ?_, hordered, ?_⟩
            · rw [Change.apply, names_set,
                if_neg (fun hnone => hcleared (get?_replay_eq_none_iff.mp hnone)), hnames]
            · intro position name
              simp only [introduced_concat, hintroduced, Change.write.injEq]
              grind
      | remove spelling =>
          refine ⟨introductions.filter fun introduction => !introduction.2.sameName spelling,
            ?_, ?_, ?_⟩
          · rw [Change.apply, remove_eq, names_erase, ← hnames, List.filter_map]
            rfl
          · exact hordered.sublist (List.filter_sublist.map Prod.fst)
          · intro position name
            simp only [introduced_concat, List.mem_filter, hintroduced, Bool.not_eq_true',
              ← Text.sameName_iff_recased, Text.sameName_comm name]
            grind

/-- No two names that are listed are the same. -/
theorem pairwise_toList (vars : Variables) :
    vars.toList.Pairwise fun first second => ¬ first.1.Recased second.1 := by
  have hdistinct := List.pairwise_map.mp vars.distinct
  rw [toList, List.pairwise_map]
  refine hdistinct.imp fun hkey hrecased => hkey ?_
  exact Text.sameName_iff.mp (Text.sameName_iff_recased.mpr hrecased)

theorem get?_of_mem_toList {vars : Variables} {pair : Text × Text} (hmem : pair ∈ vars.toList) :
    vars.get? pair.1 = some pair.2 := by
  obtain ⟨entry, hentry, rfl⟩ := List.mem_map.mp hmem
  exact get?_eq_some_iff.mpr ⟨entry, hentry, Text.sameName_refl entry.name, rfl⟩

/-- What is listed, name by name: where it was introduced, and what was last written to it. -/
theorem exists_positions (history : List Change) :
    ∃ positions : List Nat, positions.Pairwise (· < ·) ∧
      (∀ position, position ∈ positions ↔ ∃ name, Introduced history position name) ∧
      List.Forall₂ (fun position pair =>
          Introduced history position pair.1 ∧ LastWritten history pair.1 pair.2)
        positions (empty.replay history).toList := by
  obtain ⟨introductions, hnames, hordered, hintroduced⟩ := exists_introductions history
  refine ⟨introductions.map Prod.fst, hordered, fun position => ?_, ?_⟩
  · simp [← hintroduced]
  · have hspelt : List.Forall₂ Eq (introductions.map Prod.snd)
        ((empty.replay history).toList.map Prod.fst) := by
      rw [List.forall₂_eq_eq_eq, map_fst_toList]
      exact hnames
    rw [List.forall₂_map_left_iff, List.forall₂_map_right_iff] at hspelt
    have hplaced := (List.forall₂_and_left introductions _).mpr
      ⟨fun introduction hmem => (hintroduced introduction.1 introduction.2).mp hmem, hspelt⟩
    have hwritten := (List.forall₂_and_left _ introductions).mpr
      ⟨fun pair hmem => get?_replay_eq_some_iff.mp (get?_of_mem_toList hmem), hplaced.flip⟩
    rw [List.forall₂_map_left_iff]
    refine hwritten.flip.imp ?_
    rintro introduction pair ⟨hlast, hplace, hname⟩
    exact ⟨hname ▸ hplace, hlast⟩

/-- Whatever pairs variables start from and whatever is done to them, they are an ordered map over
names up to the case of ASCII letters. A name has the value of its last write if it was not removed
after it. Removing gives what reading would have given. No two names that are listed are the same,
and each stands where its first write since its last removal put it, in the spelling of that write.
Writing or removing a name leaves every other name as it is. -/
theorem ordered_map_of_history (start : List (Text × Text)) (operations : List Operation) :
    let vars := (ofList start).run operations
    let history := Change.writes start ++ operations.flatMap Operation.changes
    (∀ name value, vars.get? name = some value ↔ LastWritten history name value) ∧
    (∀ name, vars.contains name = true ↔ ∃ value, vars.get? name = some value) ∧
    (∀ name, vars.remove name = (vars.get? name, vars.erase name)) ∧
    vars.input = (vars.get? "input".toList).getD [] ∧
    (vars.toList.Pairwise fun first second => ¬ first.1.Recased second.1) ∧
    vars.size = vars.toList.length ∧
    (∃ positions : List Nat, positions.Pairwise (· < ·) ∧
      (∀ position, position ∈ positions ↔ ∃ name, Introduced history position name) ∧
      List.Forall₂ (fun position pair =>
          Introduced history position pair.1 ∧ LastWritten history pair.1 pair.2)
        positions vars.toList) ∧
    ∀ name value other,
      (vars.set name value).get? other =
          (if name.Recased other then some value else vars.get? other) ∧
        (vars.remove name).2.get? other =
          if name.Recased other then none else vars.get? other := by
  intro vars history
  have hvars : vars = empty.replay history := by
    rw [replay_append, ← extend_eq_replay, ← run_eq_replay]
    rfl
  refine ⟨fun name value => ?_, fun name => Option.isSome_iff_exists, vars.remove_eq, rfl,
    vars.pairwise_toList, (List.length_map _).symm, ?_, fun name value other => ⟨?_, ?_⟩⟩
  · rw [hvars]
    exact get?_replay_eq_some_iff
  · rw [hvars]
    exact exists_positions history
  · exact get?_apply vars (.write name value) other
  · exact get?_apply vars (.remove name) other

/-- `beta` is written again after its removal: it moves to the end, in its new spelling. `ALPHA`
keeps the place and the spelling of its first write. -/
example :
    ((ofList [("Alpha".toList, ['1']), ("beta".toList, ['2']), ("ALPHA".toList, ['3'])]).run
      [.remove "BETA".toList, .set "delta".toList ['4'], .set "Beta".toList ['5']]).toList =
        [("Alpha".toList, ['3']), ("delta".toList, ['4']), ("Beta".toList, ['5'])] := by
  decide +kernel

end

end Variables

end Stencil
