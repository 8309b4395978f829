import Mathlib.Data.List.Nodup
import Mathlib.Data.List.Perm.Basic
import Mathlib.Logic.Relation
import Stencil.Config.Source
import Stencil.Proofs.List

/-! # Decoding of configurations

A configuration can be written in more ways than one: the members of its record and of the records
of its parameters may stand in any order, members of other names may stand among them, and what
holds its default may be left out. Each such change leaves what is decoded as it is, and so does any
series of them. A record that repeats a known member, or that holds null where null is no value, is
not decoded at all.
-/

namespace Stencil

/-! ## Settings -/

namespace Value

theorem insertMember_of_lower {name : Text} {members : List (Text × Value)} (value : Value)
    (hlower : (members.all fun other => decide (name < other.1)) = true) :
    insertMember name value members = (name, value) :: members := by
  cases members with
  | nil => rfl
  | cons other rest =>
      rw [List.all_cons, Bool.and_eq_true] at hlower
      rw [insertMember, if_pos (of_decide_eq_true hlower.1)]

mutual

/-- What is settled is its own settled form. -/
theorem settle?_of_isSettled (value : Value) (h : value.isSettled = true) :
    settle? value = some value := by
  match value with
  | .nonFinite => cases h
  | .unreadable => cases h
  | .malformed => cases h
  | .list items =>
      rw [settle?, settleItems?_of_areSettled items h]
      rfl
  | .object members =>
      rw [settle?, settleMembers?_of_membersSettled members h]
      rfl
  | .null => rfl
  | .bool _ => rfl
  | .integer _ => rfl
  | .real _ => rfl
  | .string _ => rfl

theorem settleItems?_of_areSettled (items : List Value) (h : areSettled items = true) :
    settleItems? items = some items := by
  match items with
  | [] => rfl
  | item :: rest =>
      rw [areSettled, Bool.and_eq_true] at h
      rw [settleItems?, settle?_of_isSettled item h.1, settleItems?_of_areSettled rest h.2]
      rfl

theorem settleMembers?_of_membersSettled (members : List (Text × Value))
    (h : membersSettled members = true) : settleMembers? members = some members := by
  match members with
  | [] => rfl
  | (name, value) :: rest =>
      rw [membersSettled, Bool.and_eq_true, Bool.and_eq_true] at h
      obtain ⟨⟨hvalue, hlower⟩, hrest⟩ := h
      rw [settleMembers?, settle?_of_isSettled value hvalue,
        settleMembers?_of_membersSettled rest hrest]
      exact congrArg some (insertMember_of_lower value hlower)

end

end Value

theorem Settings.ofMembers?_members (settings : Settings) :
    ofMembers? settings.members = some settings := by
  have hsettle := Value.settleMembers?_of_membersSettled settings.members settings.settled
  unfold ofMembers?
  split
  next result h =>
    rw [hsettle] at h
    cases h
    rfl
  next h =>
    rw [hsettle] at h
    cases h

/-! ## The members of a record -/

namespace Value

/-- The members of an object that have known names. -/
def known (names : List Text) (members : List (Text × Value)) : List (Text × Value) :=
  members.filter fun member => names.contains member.1

/-- No known name is repeated. -/
def Unrepeated (names : List Text) (members : List (Text × Value)) : Prop :=
  ((known names members).map Prod.fst).Nodup

section

variable {α : Type} {names : List Text} {members others before after : List (Text × Value)}
  {member : Text × Value} {name : Text} {value : Value} {default : α} {read : Value → Option α}

theorem known_cons (names : List Text) (member : Text × Value) (rest : List (Text × Value)) :
    known names (member :: rest) =
      if member.1 ∈ names then member :: known names rest else known names rest := by
  rw [known, List.filter_cons]
  simp only [List.contains_iff_mem]
  rfl

theorem mem_known : member ∈ known names members ↔ member ∈ members ∧ member.1 ∈ names := by
  rw [known, List.mem_filter, List.contains_iff_mem]

theorem unrepeated_cons :
    Unrepeated names (member :: members) ↔
      (member.1 ∈ names → ∀ other ∈ members, other.1 ≠ member.1) ∧ Unrepeated names members := by
  rw [Unrepeated, known_cons]
  split
  next hknown =>
    rw [List.map_cons, List.nodup_cons]
    refine and_congr_left fun _ => ⟨fun hnot _ other hother heq => hnot ?_, fun hall hmem => ?_⟩
    · exact List.mem_map.mpr ⟨other, mem_known.mpr ⟨hother, heq ▸ hknown⟩, heq⟩
    · obtain ⟨other, hother, heq⟩ := List.mem_map.mp hmem
      exact hall hknown other (mem_known.mp hother).1 heq
  next hunknown => exact ⟨fun h => ⟨fun hknown => absurd hknown hunknown, h⟩, And.right⟩

theorem unrepeated_of_nodup (h : (members.map Prod.fst).Nodup) : Unrepeated names members :=
  h.sublist (List.filter_sublist.map Prod.fst)

theorem Unrepeated.of_perm (h : Unrepeated names members) (hperm : members.Perm others) :
    Unrepeated names others :=
  ((hperm.filter _).map Prod.fst).nodup h

theorem unrepeated_insert :
    Unrepeated names (before ++ member :: after) ↔
      (member.1 ∈ names → ∀ other ∈ before ++ after, other.1 ≠ member.1) ∧
        Unrepeated names (before ++ after) := by
  rw [← unrepeated_cons]
  exact ⟨fun h => h.of_perm List.perm_middle, fun h => h.of_perm List.perm_middle.symm⟩

/-- Members of other names are passed over, and a known name that is repeated spoils all. -/
theorem knownMembers?_json_cons (names : List Text) (name : Text) (value : Value)
    (rest : List (Text × Value)) :
    knownMembers? .json names ((name, value) :: rest) =
      (knownMembers? .json names rest).bind fun known =>
        if name ∈ names then
          if ∃ other ∈ known, other.1 = name then none else some ((name, value) :: known)
        else some known := by
  simp only [knownMembers?, bind, pure, Format.passesOver, if_true, List.contains_iff_mem,
    List.any_eq_true, beq_iff_eq]

theorem knownMembers?_json_eq_some_iff {result : List (Text × Value)} :
    knownMembers? .json names members = some result ↔
      Unrepeated names members ∧ result = known names members := by
  induction members generalizing result with
  | nil =>
      rw [knownMembers?, Option.some.injEq, eq_comm]
      exact (and_iff_right List.nodup_nil).symm
  | cons member rest ih =>
      obtain ⟨name, value⟩ := member
      rw [knownMembers?_json_cons, Option.bind_eq_some_iff, unrepeated_cons, known_cons]
      simp only [ih]
      constructor
      · rintro ⟨known, ⟨hun, rfl⟩, h⟩
        split at h
        next hname =>
          split at h
          next => cases h
          next hnone =>
            cases h
            refine ⟨⟨fun _ other hother heq => hnone ⟨other, ?_, heq⟩, hun⟩, (if_pos hname).symm⟩
            exact mem_known.mpr ⟨hother, heq ▸ hname⟩
        next hname =>
          cases h
          exact ⟨⟨fun h => absurd h hname, hun⟩, (if_neg hname).symm⟩
      · rintro ⟨⟨hfresh, hun⟩, rfl⟩
        refine ⟨_, ⟨hun, rfl⟩, ?_⟩
        split
        next hname =>
          apply if_neg
          rintro ⟨other, hother, heq⟩
          exact hfresh hname other (mem_known.mp hother).1 heq
        next => rfl

/-! ### Members that are asked for -/

/-- Of the members that are not passed over, those with a known name are the same. -/
theorem member?_known (hname : name ∈ names) :
    member? (known names members) name default read = member? members name default read := by
  have hsame : ∀ member : Text × Value,
      (names.contains member.1 = true ∧ (member.1 == name) = true) ↔
        (member.1 == name) = true := by
    intro member
    rw [List.contains_iff_mem, beq_iff_eq]
    exact and_iff_right_of_imp fun heq => heq ▸ hname
  rw [member?, known, List.find?_filter, member?]
  simp only [hsame, Bool.decide_eq_true]

theorem member?_insert_of_ne (hne : member.1 ≠ name) :
    member? (before ++ member :: after) name default read =
      member? (before ++ after) name default read := by
  rw [member?, member?, List.find?_append, List.find?_append,
    List.find?_cons_of_neg (by simpa using hne)]

/-- A member can hold something else and no name is repeated for it. -/
theorem Unrepeated.replace (h : Unrepeated names (before ++ (name, value) :: after))
    (other : Value) : Unrepeated names (before ++ (name, other) :: after) := by
  have hparts := unrepeated_insert.mp h
  exact unrepeated_insert.mpr hparts

/-- What one member holds is nothing to the others. -/
theorem member?_replace {key : Text} (hne : key ≠ name) (first second : Value) :
    member? (before ++ (key, first) :: after) name default read =
      member? (before ++ (key, second) :: after) name default read := by
  rw [member?_insert_of_ne hne, member?_insert_of_ne hne]

theorem member?_of_mem (hun : Unrepeated names members) (hname : name ∈ names)
    (hmem : (name, value) ∈ members) : member? members name default read = read value := by
  obtain ⟨before, after, rfl⟩ := List.append_of_mem hmem
  have hfresh := (unrepeated_insert.mp hun).1 hname
  have hbefore : (before.find? fun member => member.1 == name) = none := by
    rw [List.find?_eq_none]
    intro other hother
    simpa using hfresh other (List.mem_append_left after hother)
  rw [member?, List.find?_append, hbefore, Option.none_or, List.find?_cons_of_pos (by simp)]

theorem member?_insert_self (hun : Unrepeated names (before ++ (name, value) :: after))
    (hname : name ∈ names) :
    member? (before ++ (name, value) :: after) name default read = read value :=
  member?_of_mem hun hname (List.mem_append_right _ List.mem_cons_self)

/-- A member that is read does not hold null, unless null is read too. -/
theorem null_not_mem {result : α} (hun : Unrepeated names members)
    (hread : member? members name default read = some result) (hnull : read .null = none)
    (hname : name ∈ names) : (name, .null) ∉ members := by
  intro hmem
  rw [member?_of_mem hun hname hmem, hnull] at hread
  cases hread

theorem member?_of_absent (h : ∀ other ∈ members, other.1 ≠ name) :
    member? members name default read = some default := by
  have hnone : (members.find? fun member => member.1 == name) = none := by
    rw [List.find?_eq_none]
    intro other hother
    simpa using h other hother
  rw [member?, hnone]

/-- The order of the members does not matter. -/
theorem member?_of_perm (hun : Unrepeated names members) (hname : name ∈ names)
    (hperm : members.Perm others) :
    member? others name default read = member? members name default read := by
  by_cases hgiven : ∃ value, (name, value) ∈ members
  · obtain ⟨value, hmem⟩ := hgiven
    rw [member?_of_mem hun hname hmem,
      member?_of_mem (hun.of_perm hperm) hname (hperm.mem_iff.mp hmem)]
  · have habsent : ∀ other ∈ members, other.1 ≠ name := by
      rintro ⟨_, value⟩ hother rfl
      exact hgiven ⟨value, hother⟩
    rw [member?_of_absent habsent,
      member?_of_absent fun other hother => habsent other (hperm.mem_iff.mpr hother)]

/-- It makes no difference whether a member that holds its default is given. -/
theorem member?_insert_default (hun : Unrepeated names (before ++ member :: after))
    (hname : name ∈ names) (hdefault : member.1 = name → read member.2 = some default) :
    member? (before ++ member :: after) name default read =
      member? (before ++ after) name default read := by
  by_cases heq : member.1 = name
  · obtain ⟨key, value⟩ := member
    cases heq
    rw [member?_insert_self hun hname, hdefault rfl,
      member?_of_absent ((unrepeated_insert.mp hun).1 hname)]
  · exact member?_insert_of_ne heq

end

/-! ### Other ways of writing a record -/

/-- One change in how the members of a record are written that loses nothing of it. -/
inductive Change (names : List Text) (defaults : List (Text × Value)) :
    List (Text × Value) → List (Text × Value) → Prop where
  | reordered {members others : List (Text × Value)} (hperm : members.Perm others) :
      Change names defaults members others
  /-- A member of an unknown name is put in. -/
  | extended (before after : List (Text × Value)) {name : Text} (value : Value)
      (hunknown : name ∉ names) :
      Change names defaults (before ++ after) (before ++ (name, value) :: after)
  /-- A member that holds its default is left out. -/
  | omitted (before after : List (Text × Value)) {member : Text × Value}
      (hdefault : member ∈ defaults) :
      Change names defaults (before ++ member :: after) (before ++ after)
  /-- A member that was left out is given with its default. -/
  | supplied (before after : List (Text × Value)) {member : Text × Value}
      (hdefault : member ∈ defaults) (habsent : ∀ other ∈ before ++ after, other.1 ≠ member.1) :
      Change names defaults (before ++ after) (before ++ member :: after)

namespace Change

variable {α : Type} {names : List Text} {defaults members others : List (Text × Value)}
  {name : Text} {default : α} {read : Value → Option α}

theorem unrepeated (change : Change names defaults members others)
    (hun : Unrepeated names members) : Unrepeated names others := by
  cases change with
  | reordered hperm => exact hun.of_perm hperm
  | extended before after value hunknown =>
      exact unrepeated_insert.mpr ⟨fun hknown => absurd hknown hunknown, hun⟩
  | omitted before after hdefault => exact (unrepeated_insert.mp hun).2
  | supplied before after hdefault habsent =>
      exact unrepeated_insert.mpr ⟨fun _ => habsent, hun⟩

/-- What is read of a member stays the same, if the default is what it says. -/
theorem member?_eq (change : Change names defaults members others)
    (hdefaults : Unrepeated names defaults) (hun : Unrepeated names members)
    (hname : name ∈ names) (hread : member? defaults name default read = some default) :
    member? others name default read = member? members name default read := by
  have hholds : ∀ member ∈ defaults, member.1 = name → read member.2 = some default := by
    rintro ⟨_, value⟩ hmem rfl
    exact (member?_of_mem hdefaults hname hmem).symm.trans hread
  have hothers := change.unrepeated hun
  cases change with
  | reordered hperm => exact member?_of_perm hun hname hperm
  | extended before after value hunknown =>
      apply member?_insert_of_ne
      rintro rfl
      exact hunknown hname
  | omitted before after hdefault =>
      exact (member?_insert_default hun hname (hholds _ hdefault)).symm
  | supplied before after hdefault habsent =>
      exact member?_insert_default hothers hname (hholds _ hdefault)

end Change

/-- Members of a record that cannot be read: a known one is repeated, or holds null and may not. -/
inductive Spoilt (names nullable : List Text) : List (Text × Value) → Prop where
  | repeated (before between after : List (Text × Value)) {name : Text} (hname : name ∈ names)
      (first second : Value) :
      Spoilt names nullable (before ++ (name, first) :: (between ++ (name, second) :: after))
  | null (before after : List (Text × Value)) {name : Text} (hname : name ∈ names)
      (hnull : name ∉ nullable) : Spoilt names nullable (before ++ (name, .null) :: after)

/-- In members that can be read nothing is spoilt but by a null. -/
theorem Spoilt.exists_null {names nullable : List Text} {members : List (Text × Value)}
    (spoilt : Spoilt names nullable members) (hun : Unrepeated names members) :
    ∃ name ∈ names, name ∉ nullable ∧ (name, .null) ∈ members := by
  cases spoilt with
  | repeated before between after hname first second =>
      have hfresh := (unrepeated_insert.mp hun).1 hname
      exact absurd rfl (hfresh (_, second) (by simp))
  | null before after hname hnull =>
      exact ⟨_, hname, hnull, List.mem_append_right _ List.mem_cons_self⟩

end Value

/-! ## Parameters -/

namespace Parameter

/-- Every member of the record, with its default. -/
def memberDefaults : List (Text × Value) :=
  [("name".toList, .string []), ("description".toList, .string []), ("default".toList, .null)]

/-- The members of a record give a parameter. -/
structure ReadFrom (members : List (Text × Value)) (parameter : Parameter) : Prop where
  unrepeated : Value.Unrepeated memberNames members
  name : Value.member? members "name".toList [] Value.text? = some parameter.name
  description :
    Value.member? members "description".toList [] Value.text? = some parameter.description
  default :
    Value.member? members "default".toList none Value.optionalText? = some parameter.default

variable {members others : List (Text × Value)} {parameter : Parameter}

theorem ofValue?_object :
    ofValue? .json (.object members) = some parameter ↔ ReadFrom members parameter := by
  simp only [ofValue?, Value.record?, bind, pure, Option.bind_eq_some_iff,
    Value.knownMembers?_json_eq_some_iff, Option.some.injEq]
  constructor
  · rintro ⟨_, ⟨hun, rfl⟩, name, hname, description, hdescription, default, hdefault, rfl⟩
    rw [Value.member?_known (by decide)] at hname hdescription hdefault
    exact ⟨hun, hname, hdescription, hdefault⟩
  · intro h
    refine ⟨_, ⟨h.unrepeated, rfl⟩, _, ?_, _, ?_, _, ?_, rfl⟩
    all_goals rw [Value.member?_known (by decide)]
    · exact h.name
    · exact h.description
    · exact h.default

theorem ofValue?_toValue (parameter : Parameter) :
    ofValue? .json parameter.toValue = some parameter := by
  have hnames : memberNames.Nodup := by decide
  apply ofValue?_object.mpr
  obtain ⟨name, description, default⟩ := parameter
  cases default with
  | none =>
      have hset : memberNames.dropLast.Nodup := hnames.sublist (List.dropLast_sublist _)
      exact ⟨Value.unrepeated_of_nodup hset, rfl, rfl, rfl⟩
  | some text => exact ⟨Value.unrepeated_of_nodup hnames, rfl, rfl, rfl⟩

/-- The defaults are those of a parameter of which nothing is given. -/
theorem readFrom_memberDefaults : ReadFrom memberDefaults (named []) where
  unrepeated := Value.unrepeated_of_nodup (by decide)
  name := rfl
  description := rfl
  default := rfl

theorem ReadFrom.change (h : ReadFrom members parameter)
    (change : Value.Change memberNames memberDefaults members others) :
    ReadFrom others parameter where
  unrepeated := change.unrepeated h.unrepeated
  name := by
    rw [change.member?_eq readFrom_memberDefaults.unrepeated h.unrepeated (by decide)
      readFrom_memberDefaults.name]
    exact h.name
  description := by
    rw [change.member?_eq readFrom_memberDefaults.unrepeated h.unrepeated (by decide)
      readFrom_memberDefaults.description]
    exact h.description
  default := by
    rw [change.member?_eq readFrom_memberDefaults.unrepeated h.unrepeated (by decide)
      readFrom_memberDefaults.default]
    exact h.default

/-- Nothing is repeated, and no member but the default holds null. -/
theorem ReadFrom.not_spoilt (h : ReadFrom members parameter) :
    ¬ Value.Spoilt memberNames ["default".toList] members := by
  intro spoilt
  obtain ⟨name, hname, hnull, hmem⟩ := spoilt.exists_null h.unrepeated
  have hnames := hname
  simp only [memberNames, List.mem_cons, List.not_mem_nil, or_false] at hnames
  rcases hnames with rfl | rfl | rfl
  · exact Value.null_not_mem h.unrepeated h.name rfl hname hmem
  · exact Value.null_not_mem h.unrepeated h.description rfl hname hmem
  · exact hnull List.mem_cons_self

/-- A default that is null is not set. -/
theorem ReadFrom.unset {before after : List (Text × Value)} {value : Value}
    (h : ReadFrom (before ++ ("default".toList, value) :: after) parameter) :
    ReadFrom (before ++ ("default".toList, .null) :: after) { parameter with default := none } where
  unrepeated := h.unrepeated.replace .null
  name := by
    rw [Value.member?_replace (by decide) .null value]
    exact h.name
  description := by
    rw [Value.member?_replace (by decide) .null value]
    exact h.description
  default := Value.member?_insert_self (h.unrepeated.replace .null) (by decide)

end Parameter

/-! ## Configurations -/

namespace Config

/-- Every member of the record, with its default. -/
def memberDefaults : List (Text × Value) :=
  [("schema".toList, .integer 1), ("description".toList, .string []),
    ("input_variables".toList, .list []), ("execution_settings".toList, .object []),
    ("allow_unsafe_content".toList, .bool false), ("inline_variables".toList, .bool true)]

theorem toValue_standard : standard.toValue = .object memberDefaults :=
  rfl

/-- The members of a record give a configuration. -/
structure ReadFrom (members : List (Text × Value)) (config : Config) : Prop where
  unrepeated : Value.Unrepeated memberNames members
  schema : Value.member? members "schema".toList 1 Value.word? = some config.schema
  description :
    Value.member? members "description".toList [] Value.text? = some config.description
  parameters :
    Value.member? members "input_variables".toList []
      (Value.list? (Parameter.ofValue? .json)) = some config.parameters
  settings :
    Value.member? members "execution_settings".toList .empty Value.settings? =
      some config.settings
  allowUnsafe :
    Value.member? members "allow_unsafe_content".toList false Value.bool? =
      some config.allowUnsafe
  inlineVariables :
    Value.member? members "inline_variables".toList true Value.bool? =
      some config.inlineVariables

variable {members others : List (Text × Value)} {config : Config}

theorem ofValue?_object :
    ofValue? .json (.object members) = some config ↔ ReadFrom members config := by
  simp only [ofValue?, Value.record?, bind, pure, Option.bind_eq_some_iff,
    Value.knownMembers?_json_eq_some_iff, Option.some.injEq]
  constructor
  · rintro ⟨_, ⟨hun, rfl⟩, schema, hschema, description, hdescription, parameters, hparameters,
      settings, hsettings, allowUnsafe, hallow, inlineVariables, hinline, rfl⟩
    rw [Value.member?_known (by decide)]
      at hschema hdescription hparameters hsettings hallow hinline
    exact ⟨hun, hschema, hdescription, hparameters, hsettings, hallow, hinline⟩
  · intro h
    refine ⟨_, ⟨h.unrepeated, rfl⟩, _, ?_, _, ?_, _, ?_, _, ?_, _, ?_, _, ?_, rfl⟩
    all_goals rw [Value.member?_known (by decide)]
    · exact h.schema
    · exact h.description
    · exact h.parameters
    · exact h.settings
    · exact h.allowUnsafe
    · exact h.inlineVariables

theorem ofValue?_toValue (config : Config) : ofValue? .json config.toValue = some config := by
  have hnames : memberNames.Nodup := by decide
  have hschema : Value.word? (.integer config.schema.toNat) = some config.schema := by
    have hword : Value.word? (.integer config.schema.toNat) =
        if config.schema.toNat < UInt32.size then some (UInt32.ofNat config.schema.toNat)
        else none :=
      rfl
    rw [hword, if_pos config.schema.toNat_lt_size, UInt32.ofNat_toNat]
  have hparameters : Value.list? (Parameter.ofValue? .json)
      (.list (config.parameters.map Parameter.toValue)) = some config.parameters := by
    apply List.mapM_eq_some_iff.mpr
    rw [List.forall₂_map_left_iff, List.forall₂_same]
    exact fun parameter _ => parameter.ofValue?_toValue
  have hsettings : Value.settings? (.object config.settings.members) = some config.settings :=
    config.settings.ofMembers?_members
  apply ofValue?_object.mpr
  exact ⟨Value.unrepeated_of_nodup hnames, hschema, rfl, hparameters, hsettings, rfl, rfl⟩

/-- The defaults are those of the standard configuration. -/
theorem readFrom_memberDefaults : ReadFrom memberDefaults standard := by
  apply ofValue?_object.mp
  rw [← toValue_standard]
  exact standard.ofValue?_toValue

theorem ReadFrom.change (h : ReadFrom members config)
    (change : Value.Change memberNames memberDefaults members others) : ReadFrom others config where
  unrepeated := change.unrepeated h.unrepeated
  schema := by
    rw [change.member?_eq readFrom_memberDefaults.unrepeated h.unrepeated (by decide)
      readFrom_memberDefaults.schema]
    exact h.schema
  description := by
    rw [change.member?_eq readFrom_memberDefaults.unrepeated h.unrepeated (by decide)
      readFrom_memberDefaults.description]
    exact h.description
  parameters := by
    rw [change.member?_eq readFrom_memberDefaults.unrepeated h.unrepeated (by decide)
      readFrom_memberDefaults.parameters]
    exact h.parameters
  settings := by
    rw [change.member?_eq readFrom_memberDefaults.unrepeated h.unrepeated (by decide)
      readFrom_memberDefaults.settings]
    exact h.settings
  allowUnsafe := by
    rw [change.member?_eq readFrom_memberDefaults.unrepeated h.unrepeated (by decide)
      readFrom_memberDefaults.allowUnsafe]
    exact h.allowUnsafe
  inlineVariables := by
    rw [change.member?_eq readFrom_memberDefaults.unrepeated h.unrepeated (by decide)
      readFrom_memberDefaults.inlineVariables]
    exact h.inlineVariables

/-- Nothing is repeated, and no member holds null. -/
theorem ReadFrom.not_spoilt (h : ReadFrom members config) :
    ¬ Value.Spoilt memberNames [] members := by
  intro spoilt
  obtain ⟨name, hname, -, hmem⟩ := spoilt.exists_null h.unrepeated
  have hnames := hname
  simp only [memberNames, List.mem_cons, List.not_mem_nil, or_false] at hnames
  rcases hnames with rfl | rfl | rfl | rfl | rfl | rfl
  · exact Value.null_not_mem h.unrepeated h.schema rfl hname hmem
  · exact Value.null_not_mem h.unrepeated h.description rfl hname hmem
  · exact Value.null_not_mem h.unrepeated h.parameters rfl hname hmem
  · exact Value.null_not_mem h.unrepeated h.settings rfl hname hmem
  · exact Value.null_not_mem h.unrepeated h.allowUnsafe rfl hname hmem
  · exact Value.null_not_mem h.unrepeated h.inlineVariables rfl hname hmem

/-! ### The records of the parameters -/

/-- The members of a record, with its parameters among them. -/
def framed (before after : List (Text × Value)) (items : List Value) : List (Text × Value) :=
  before ++ ("input_variables".toList, .list items) :: after

variable {before after : List (Text × Value)} {items : List Value}

/-- Other items give other parameters, and nothing else changes. -/
theorem ReadFrom.replace (h : ReadFrom (framed before after items) config) {next : List Value}
    {parameters : List Parameter}
    (hnext : List.Forall₂ (fun item parameter => Parameter.ofValue? .json item = some parameter)
      next parameters) :
    ReadFrom (framed before after next) { config with parameters } where
  unrepeated := h.unrepeated.replace _
  schema := by
    rw [framed, Value.member?_replace (by decide) _ (.list items)]
    exact h.schema
  description := by
    rw [framed, Value.member?_replace (by decide) _ (.list items)]
    exact h.description
  parameters := by
    rw [framed, Value.member?_insert_self (h.unrepeated.replace _) (by decide)]
    exact List.mapM_eq_some_iff.mpr hnext
  settings := by
    rw [framed, Value.member?_replace (by decide) _ (.list items)]
    exact h.settings
  allowUnsafe := by
    rw [framed, Value.member?_replace (by decide) _ (.list items)]
    exact h.allowUnsafe
  inlineVariables := by
    rw [framed, Value.member?_replace (by decide) _ (.list items)]
    exact h.inlineVariables

/-- Each item is read to the parameter in its place, and one put in its place to another. -/
theorem ReadFrom.around {earlier later : List Value} {item : Value}
    (h : ReadFrom (framed before after (earlier ++ item :: later)) config) :
    ∃ first parameter last, config.parameters = first ++ parameter :: last ∧
      first.length = earlier.length ∧ Parameter.ofValue? .json item = some parameter ∧
      ∀ other next, Parameter.ofValue? .json other = some next →
        ReadFrom (framed before after (earlier ++ other :: later))
          { config with parameters := first ++ next :: last } := by
  have hitems : (earlier ++ item :: later).mapM (Parameter.ofValue? .json) =
      some config.parameters :=
    (Value.member?_insert_self h.unrepeated (by decide)).symm.trans h.parameters
  obtain ⟨first, parameter, last, heq, hfirst, hitem, hlast⟩ :=
    List.forall₂_around (List.mapM_eq_some_iff.mp hitems)
  refine ⟨first, parameter, last, heq, hfirst.length_eq.symm, hitem, fun other next hother => ?_⟩
  exact h.replace (List.rel_append hfirst (.cons hother hlast))

/-! ### Objects that stand for a configuration -/

/-- One change in how a configuration is written that loses nothing of it. -/
inductive Rewritten : Value → Value → Prop where
  | members {members others : List (Text × Value)}
      (change : Value.Change memberNames memberDefaults members others) :
      Rewritten (.object members) (.object others)
  | parameter (before after : List (Text × Value)) (earlier later : List Value)
      {members others : List (Text × Value)}
      (change : Value.Change Parameter.memberNames Parameter.memberDefaults members others) :
      Rewritten (.object (framed before after (earlier ++ .object members :: later)))
        (.object (framed before after (earlier ++ .object others :: later)))

/-- A configuration is not decoded: its record is spoilt, or that of a parameter. -/
inductive Spoilt : Value → Prop where
  | members {members : List (Text × Value)} (spoilt : Value.Spoilt memberNames [] members) :
      Spoilt (.object members)
  | parameter (before after : List (Text × Value)) (earlier later : List Value)
      {members : List (Text × Value)}
      (spoilt : Value.Spoilt Parameter.memberNames ["default".toList] members) :
      Spoilt (.object (framed before after (earlier ++ .object members :: later)))

/-- The default of a parameter is replaced by null. -/
inductive Unset : Nat → Value → Value → Prop where
  | parameter (before after : List (Text × Value)) (earlier later : List Value)
      (front back : List (Text × Value)) (value : Value) :
      Unset earlier.length
        (.object (framed before after
          (earlier ++ .object (front ++ ("default".toList, value) :: back) :: later)))
        (.object (framed before after
          (earlier ++ .object (front ++ ("default".toList, .null) :: back) :: later)))

/-- The configuration with the default of one parameter no longer set. -/
def withoutDefault (config : Config) (index : Nat) : Config :=
  { config with
    parameters := config.parameters.modify index fun parameter =>
      { parameter with default := none } }

variable {value other : Value}

theorem Rewritten.ofValue? (h : Rewritten value other)
    (hvalue : Config.ofValue? .json value = some config) :
    Config.ofValue? .json other = some config := by
  cases h with
  | members change => exact ofValue?_object.mpr ((ofValue?_object.mp hvalue).change change)
  | parameter before after earlier later change =>
      obtain ⟨first, parameter, last, heq, -, hitem, hreplace⟩ :=
        (ofValue?_object.mp hvalue).around
      have hother := Parameter.ofValue?_object.mpr
        ((Parameter.ofValue?_object.mp hitem).change change)
      have hread := hreplace _ parameter hother
      rw [← heq] at hread
      exact ofValue?_object.mpr hread

/-- Any number of changes leave what is decoded as it is. -/
theorem ofValue?_of_rewritten (h : Relation.ReflTransGen Rewritten value other)
    (hvalue : Config.ofValue? .json value = some config) :
    Config.ofValue? .json other = some config := by
  induction h with
  | refl => exact hvalue
  | tail _ change ih => exact change.ofValue? ih

theorem Spoilt.ofValue? (h : Spoilt value) : Config.ofValue? .json value = none := by
  rw [Option.eq_none_iff_forall_ne_some]
  intro config hvalue
  cases h with
  | members spoilt => exact (ofValue?_object.mp hvalue).not_spoilt spoilt
  | parameter before after earlier later spoilt =>
      obtain ⟨first, parameter, last, -, -, hitem, -⟩ := (ofValue?_object.mp hvalue).around
      exact (Parameter.ofValue?_object.mp hitem).not_spoilt spoilt

theorem Unset.ofValue? {index : Nat} (h : Unset index value other)
    (hvalue : Config.ofValue? .json value = some config) :
    Config.ofValue? .json other = some (config.withoutDefault index) := by
  cases h with
  | parameter before after earlier later front back value =>
      obtain ⟨first, parameter, last, heq, hlength, hitem, hreplace⟩ :=
        (ofValue?_object.mp hvalue).around
      have hother := Parameter.ofValue?_object.mpr (Parameter.ofValue?_object.mp hitem).unset
      have hconfig : config.withoutDefault earlier.length =
          { config with parameters := first ++ { parameter with default := none } :: last } := by
        rw [withoutDefault, heq, ← hlength, List.modify_eq_set_getElem?]
        simp
      rw [hconfig]
      exact ofValue?_object.mpr (hreplace _ _ hother)

/-! ### Texts -/

theorem ofText_json {text : Text} (hread : Json.read? text = some value) :
    Config.ofText .json text =
      match Config.ofValue? .json value with
      | some config => .ok config
      | none => .error .illFormed := by
  cases hvalue : Config.ofValue? .json value with
  | some config => simp [ofText, hread, hvalue]
  | none => simp [ofText, hread, hvalue]

/-- A configuration is decoded from what it is written as, and from whatever that can be rewritten
to without a loss: with the members of its record and of the records of its parameters in another
order, with unknown members among them, and with members that hold their default left out. If null
takes the place of the default of a parameter, that default is not set. A record that repeats a
known member, or in which null stands for any other, is not decoded. -/
theorem decoding_undoes_encoding (config : Config) :
    (∀ value, Relation.ReflTransGen Rewritten config.toValue value →
      Config.ofValue? .json value = some config ∧
      (∀ text, Json.read? text = some value → Config.ofText .json text = .ok config) ∧
      ∀ index other, Unset index value other →
        Config.ofValue? .json other = some (config.withoutDefault index) ∧
        ∀ text, Json.read? text = some other →
          Config.ofText .json text = .ok (config.withoutDefault index)) ∧
    ∀ value, Spoilt value →
      Config.ofValue? .json value = none ∧
      ∀ text, Json.read? text = some value → Config.ofText .json text = .error .illFormed := by
  refine ⟨fun value hrewritten => ?_, fun value spoilt => ?_⟩
  · have hvalue := ofValue?_of_rewritten hrewritten config.ofValue?_toValue
    refine ⟨hvalue, fun text hread => ?_, fun index other hunset => ?_⟩
    · rw [ofText_json hread, hvalue]
    · have hother := hunset.ofValue? hvalue
      refine ⟨hother, fun text hread => ?_⟩
      rw [ofText_json hread, hother]
  · have hvalue := spoilt.ofValue?
    refine ⟨hvalue, fun text hread => ?_⟩
    rw [ofText_json hread, hvalue]

set_option maxRecDepth 4000 in
/-- A text that leaves out five defaults and adds a note, the members of its parameter the other way
round. -/
theorem decoding_undoes_encoding_noted :
    ∃ (config : Config) (value other broken : Value) (text : Text),
      Relation.ReflTransGen Rewritten config.toValue value ∧
      Json.read? text = some value ∧ Unset 0 value other ∧ Spoilt broken ∧
      Config.ofText .json text = .ok config ∧
      Config.ofValue? .json other = some (config.withoutDefault 0) ∧
      Config.ofValue? .json broken = none := by
  let settings : Settings := ⟨[(['m'], .integer 2)], by decide⟩
  let config : Config := ⟨1, [], [⟨['a'], [], some ['b']⟩], settings, false, true⟩
  let name : Text × Value := ("name".toList, .string ['a'])
  let before : List (Text × Value) := [(['n'], .list [])]
  let after : List (Text × Value) := [("execution_settings".toList, .object settings.members)]
  let text : Text :=
    "\x7b\"n\":[],\"input_variables\":[\x7b\"default\":\"b\",\"name\":\"a\"\x7d],".toList ++
      "\"execution_settings\":\x7b\"m\":2\x7d\x7d".toList
  let value : Value :=
    .object (framed before after [.object [("default".toList, .string ['b']), name]])
  let other : Value := .object (framed before after [.object [("default".toList, .null), name]])
  let broken : Value := .object (framed before after [.object [name, name]])
  have hrewritten : Relation.ReflTransGen Rewritten config.toValue value := by
    apply Relation.ReflTransGen.head
      (.members (.omitted [] _ (List.mem_of_getElem? (i := 0) rfl)))
    apply Relation.ReflTransGen.head
      (.members (.omitted [] _ (List.mem_of_getElem? (i := 1) rfl)))
    apply Relation.ReflTransGen.head
      (.members (.omitted [_, _] _ (List.mem_of_getElem? (i := 4) rfl)))
    apply Relation.ReflTransGen.head
      (.members (.omitted [_, _] _ (List.mem_of_getElem? (i := 5) rfl)))
    apply Relation.ReflTransGen.head
      (.members (.extended [] _ (.list []) (by decide : ['n'] ∉ memberNames)))
    apply Relation.ReflTransGen.head
      (.parameter [_] _ [] [] (.omitted [_] _ (List.mem_of_getElem? (i := 1) rfl)))
    exact .single (.parameter [_] _ [] [] (.reordered (.swap _ _ _)))
  have hread : Json.read? text = some value := rfl
  have hunset : Unset 0 value other := .parameter before after [] [] [] [name] _
  have hspoilt : Spoilt broken :=
    .parameter before after [] [] (.repeated [] [] [] (by decide) _ _)
  obtain ⟨hdecodes, hspoils⟩ := decoding_undoes_encoding config
  obtain ⟨-, htext, hwithout⟩ := hdecodes value hrewritten
  exact ⟨config, value, other, broken, text, hrewritten, hread, hunset, hspoilt, htext text hread,
    (hwithout 0 other hunset).1, (hspoils broken hspoilt).1⟩

end Config

end Stencil
