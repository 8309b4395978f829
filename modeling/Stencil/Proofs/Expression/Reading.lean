import Mathlib.Data.List.TakeWhile
import Stencil.Proofs.Expression.Parts

/-! # Reading an expression

The reader accepts exactly the texts that the grammar derives, wherever they stand
in a template, and gives the expression of the derivation. Everything else it
refuses.
-/

namespace Stencil

open Grammar

/-! ## Function names -/

namespace Grammar

theorem Name.ne_dot {name : Text} (hname : Name name) : ∀ c ∈ name, (c != '.') = true := by
  intro c hc
  rw [bne_iff_ne]
  rintro rfl
  exact absurd (hname.2 _ hc) (by decide)

/-- A word without dots names a function of no plugin. -/
theorem ofWord_plain {word : Text} (hdots : ∀ c ∈ word, (c != '.') = true) :
    FunctionRef.ofWord word =
      if isName word then .ok ⟨none, word⟩ else .error (.invalidFunction word) := by
  have hdrop : word.dropWhile (· != '.') = [] := List.dropWhile_eq_nil_iff.mpr hdots
  rw [FunctionRef.ofWord, hdrop]

/-- The first dot of a word stands between the plugin and the function. -/
theorem ofWord_qualified {plugin : Text} (hdots : ∀ c ∈ plugin, (c != '.') = true) (name : Text) :
    FunctionRef.ofWord (plugin ++ '.' :: name) =
      if name.contains '.' then .error (.extraDot (plugin ++ '.' :: name))
      else if isName plugin && isName name then .ok ⟨some plugin, name⟩
      else .error (.invalidFunction (plugin ++ '.' :: name)) := by
  have hdot : ∀ c ∈ ('.' :: name).head?, (c != '.') = false := by
    intro c hc
    cases hc
    rfl
  obtain ⟨htake, hdrop⟩ := Lexeme.span_append hdots hdot
  rw [FunctionRef.ofWord, hdrop, htake]

/-- A word has no dot, or a first one. -/
theorem dotless_or_first_dot (word : Text) :
    (∀ c ∈ word, (c != '.') = true) ∨
      ∃ plugin name, word = plugin ++ '.' :: name ∧ ∀ c ∈ plugin, (c != '.') = true := by
  induction word with
  | nil => exact .inl fun c hc => nomatch hc
  | cons c rest ih =>
      by_cases hc : c = '.'
      · exact .inr ⟨[], rest, hc ▸ rfl, fun c hc => nomatch hc⟩
      · have hfirst : (c != '.') = true := bne_iff_ne.mpr hc
        rcases ih with hrest | ⟨plugin, name, rfl, hplugin⟩
        · exact .inl (List.forall_mem_cons.mpr ⟨hfirst, hrest⟩)
        · exact .inr ⟨c :: plugin, name, rfl, List.forall_mem_cons.mpr ⟨hfirst, hplugin⟩⟩

/-- A word names a function exactly when the grammar says so. -/
theorem ofWord_eq_ok {word : Text} {function : FunctionRef} :
    FunctionRef.ofWord word = .ok function ↔ Function word function := by
  constructor
  · intro h
    rcases dotless_or_first_dot word with hdots | ⟨plugin, name, rfl, hdots⟩
    · rw [ofWord_plain hdots] at h
      split at h
      next hname =>
        cases h
        exact .plain (isName_iff.mp hname)
      next => cases h
    · rw [ofWord_qualified hdots] at h
      split at h
      next => cases h
      next =>
        split at h
        next hnames =>
          cases h
          obtain ⟨hplugin, hname⟩ := Bool.and_eq_true_iff.mp hnames
          exact .qualified (isName_iff.mp hplugin) (isName_iff.mp hname)
        next => cases h
  · intro h
    cases h with
    | plain hname => rw [ofWord_plain hname.ne_dot, if_pos (isName_iff.mpr hname)]
    | @qualified plugin name hplugin hname =>
        have hdots : ¬ name.contains '.' = true := by
          rw [List.contains_iff_mem]
          exact fun hmem => absurd (hname.2 _ hmem) (by decide)
        have hnames : (isName plugin && isName name) = true :=
          Bool.and_eq_true_iff.mpr ⟨isName_iff.mpr hplugin, isName_iff.mpr hname⟩
        rw [ofWord_qualified hplugin.ne_dot, if_neg hdots, if_pos hnames]

/-- A function's name is a word. -/
theorem Function.unit {text : Text} {function : FunctionRef} (head : Function text function) :
    Unit text (.word text) := by
  cases head with
  | plain hname => exact .word hname.1 hname.isWordChar
  | @qualified plugin name hplugin hname =>
      refine .word (List.append_ne_nil_of_left_ne_nil hplugin.1 _) ?_
      refine List.forall_mem_append.mpr ⟨hplugin.isWordChar, ?_⟩
      exact List.forall_mem_cons.mpr ⟨rfl, hname.isWordChar⟩

/-! ## From parts to an expression -/

/-- The expression that a list of parts makes up. -/
inductive Assembled : List Part → Option Expression → Prop where
  | blank : Assembled [] none
  | operand (operand : Operand) : Assembled [.operand operand] (some (.operand operand))
  | call {word : Text} {function : FunctionRef} (head : Function word function)
      (input : Option Operand) (named : List Binding) :
      Assembled (.word word :: (input.toList.map .operand ++ named.map .binding))
        (some (.call ⟨function, input, named⟩))

theorem bindings_eq_ok {position : Nat} {parts : List PlacedPart} {named : List Binding} :
    Call.bindings position parts = .ok named ↔
      parts.map PlacedPart.part = named.map .binding := by
  induction parts generalizing position named with
  | nil =>
      rw [Call.bindings, List.map_nil, Except.ok.injEq, @eq_comm _ [], @eq_comm _ [],
        List.map_eq_nil_iff]
  | cons first rest ih =>
      obtain ⟨part, span⟩ := first
      cases part with
      | word word =>
          constructor
          · intro h
            cases h
          · intro h
            cases named <;> cases h
      | operand operand =>
          constructor
          · intro h
            cases h
          · intro h
            cases named <;> cases h
      | binding binding =>
          rw [Call.bindings]
          constructor
          · intro h
            obtain ⟨others, hothers, h⟩ := Result.bind_eq_ok.mp h
            cases h
            exact congrArg (Part.binding binding :: ·) (ih.mp hothers)
          · intro h
            cases named with
            | nil => cases h
            | cons head tail =>
                obtain ⟨hhead, htail⟩ := List.cons.inj h
                cases hhead
                exact Result.bind_eq_ok.mpr ⟨tail, ih.mpr htail, rfl⟩

theorem withBindings_eq_ok {function : FunctionRef} {input : Option Operand} {position : Nat}
    {parts : List PlacedPart} {call : Call} :
    (do return (⟨function, input, ← Call.bindings position parts⟩ : Call)) = .ok call ↔
      ∃ named, call = ⟨function, input, named⟩ ∧
        parts.map PlacedPart.part = named.map .binding := by
  constructor
  · intro h
    obtain ⟨named, hnamed, h⟩ := Result.bind_eq_ok.mp h
    cases h
    exact ⟨named, rfl, bindings_eq_ok.mp hnamed⟩
  · rintro ⟨named, rfl, hnamed⟩
    exact Result.bind_eq_ok.mpr ⟨named, bindings_eq_ok.mpr hnamed, rfl⟩

/-- The parts after a function's name are its unnamed argument and its named ones. -/
theorem callOfParts_eq_ok {function : FunctionRef} {parts : List PlacedPart} {call : Call} :
    Call.ofParts function parts = .ok call ↔ ∃ input named, call = ⟨function, input, named⟩ ∧
      parts.map PlacedPart.part = input.toList.map .operand ++ named.map .binding := by
  by_cases hoperand : ∃ operand span rest, parts = ⟨.operand operand, span⟩ :: rest
  · obtain ⟨operand, span, rest, rfl⟩ := hoperand
    rw [Call.ofParts, withBindings_eq_ok]
    constructor
    · rintro ⟨named, rfl, hnamed⟩
      exact ⟨some operand, named, rfl, congrArg (Part.operand operand :: ·) hnamed⟩
    · rintro ⟨input, named, rfl, hparts⟩
      cases input with
      | none => cases named <;> cases hparts
      | some operand =>
          obtain ⟨hhead, htail⟩ := List.cons.inj hparts
          cases hhead
          exact ⟨named, rfl, htail⟩
  · have hfirst : ∀ operand span rest, parts = ⟨.operand operand, span⟩ :: rest → False :=
      fun operand span rest heq => hoperand ⟨operand, span, rest, heq⟩
    rw [Call.ofParts.eq_2 function parts hfirst, withBindings_eq_ok]
    constructor
    · rintro ⟨named, rfl, hnamed⟩
      exact ⟨none, named, rfl, hnamed⟩
    · rintro ⟨input, named, rfl, hparts⟩
      cases input with
      | none => exact ⟨named, rfl, hparts⟩
      | some operand =>
          cases parts with
          | nil => cases hparts
          | cons first rest =>
              obtain ⟨part, span⟩ := first
              cases (List.cons.inj hparts).1
              exact (hfirst operand span rest rfl).elim

/-- The parts of an expression, whatever their places. -/
theorem ofParts_eq_ok {parts : List PlacedPart} {expression : Option Expression} :
    Expression.ofParts parts = .ok expression ↔
      Assembled (parts.map PlacedPart.part) expression := by
  match parts with
  | [] =>
      constructor
      · intro h
        cases h
        exact .blank
      · intro h
        cases h
        rfl
  | ⟨.binding _, _⟩ :: _ =>
      constructor
      · intro h
        cases h
      · intro h
        cases h
  | [⟨.operand operand, _⟩] =>
      constructor
      · intro h
        cases h
        exact .operand operand
      · intro h
        cases h
        rfl
  | ⟨.operand _, _⟩ :: _ :: _ =>
      constructor
      · intro h
        cases h
      · intro h
        cases h
  | ⟨.word word, span⟩ :: rest =>
      constructor
      · intro h
        rw [Expression.ofParts] at h
        split at h
        next => cases h
        next function hfunction =>
          obtain ⟨call, hcall, h⟩ := Result.bind_eq_ok.mp h
          obtain ⟨input, named, rfl, hrest⟩ := callOfParts_eq_ok.mp hcall
          cases h
          rw [List.map_cons, hrest]
          exact .call (ofWord_eq_ok.mp hfunction) input named
      · intro h
        generalize hparts : List.map PlacedPart.part (⟨.word word, span⟩ :: rest) = all at h
        cases h with
        | blank => cases hparts
        | operand => cases hparts
        | @call other function head input named =>
            obtain ⟨hword, hrest⟩ := List.cons.inj hparts
            cases hword
            have hcall : Call.ofParts function rest = .ok ⟨function, input, named⟩ :=
              callOfParts_eq_ok.mpr ⟨input, named, rfl, hrest⟩
            rw [Expression.ofParts, ofWord_eq_ok.mpr head]
            exact Result.bind_eq_ok.mpr ⟨_, hcall, rfl⟩

/-! ## Rows and derivations -/

/-- Only a gap holds no expression. -/
theorem Derives.gap {text : Text} (derivation : Derives text none) : Gap text := by
  cases derivation with
  | blank hgap => exact hgap

theorem Row.of_gap {gap : Text} (hgap : Gap gap) (spaced : Bool) : Row spaced gap [] := by
  rw [← List.append_nil gap]
  exact .gap_append hgap .nil

/-- A part behind a gap that is not empty may start anywhere. -/
theorem Row.part_after {gap unit rest : Text} {part : Part} {parts : List Part} (hgap : Gap gap)
    (hne : gap ≠ []) (hunit : Unit unit part) (row : Row false rest parts) :
    Row false (gap ++ (unit ++ rest)) (part :: parts) := by
  refine .gap_append hgap ?_
  rw [List.isEmpty_eq_false_iff.mpr hne]
  exact .part hunit row

/-- The named arguments of a call are a row of their own kind of part. -/
theorem Tail.row {text after : Text} {named : List Binding} (tail : Tail text named)
    (hafter : Gap after) : Row false (text ++ after) (named.map .binding) := by
  induction tail with
  | nil => exact .of_gap hafter false
  | cons hgap hne named _ ih =>
      simp only [List.append_assoc]
      exact .part_after hgap hne (.binding named) ih

theorem Row.exists_tail {text : Text} {named : List Binding}
    (row : Row false text (named.map .binding)) :
    ∃ rest after, text = rest ++ after ∧ Tail rest named ∧ Gap after := by
  induction named generalizing text with
  | nil => exact ⟨[], text, rfl, .nil, row.gap_of_nil⟩
  | cons binding named ih =>
      obtain ⟨gap, unit, rest, rfl, hgap, hspaced, hunit, hrest⟩ := row.exists_of_cons
      obtain ⟨rest, after, rfl, tail, hafter⟩ := ih hrest
      have hne : gap ≠ [] := by
        rintro rfl
        cases hspaced
      cases hunit with
      | binding named =>
          refine ⟨gap ++ unit ++ rest, after, ?_, .cons hgap hne named tail, hafter⟩
          simp only [List.append_assoc]

/-- The unnamed argument of a call is the part before its named arguments, if there is one. -/
theorem Input.row {first rest : Text} {input : Option Operand} {parts : List Part}
    (positional : Input first input) (row : Row false rest parts) :
    Row false (first ++ rest) (input.toList.map .operand ++ parts) := by
  cases positional with
  | none => exact row
  | some hgap hne argument =>
      rw [List.append_assoc]
      exact .part_after hgap hne (.operand argument) row

theorem Row.exists_input {text : Text} {input : Option Operand} {parts : List Part}
    (row : Row false text (input.toList.map .operand ++ parts)) :
    ∃ first rest, text = first ++ rest ∧ Input first input ∧ Row false rest parts := by
  cases input with
  | none => exact ⟨[], text, rfl, .none, row⟩
  | some operand =>
      obtain ⟨gap, unit, rest, rfl, hgap, hspaced, hunit, hrest⟩ := row.exists_of_cons
      have hne : gap ≠ [] := by
        rintro rfl
        cases hspaced
      cases hunit with
      | operand argument =>
          refine ⟨gap ++ unit, rest, ?_, .some hgap hne argument, hrest⟩
          rw [List.append_assoc]

theorem Derives.exists_row {text : Text} {expression : Option Expression}
    (derivation : Derives text expression) :
    ∃ parts, Row true text parts ∧ Assembled parts expression := by
  cases derivation with
  | blank hgap => exact ⟨[], .of_gap hgap true, .blank⟩
  | operand hbefore argument hafter =>
      refine ⟨_, ?_, .operand _⟩
      rw [List.append_assoc]
      exact .gap_append hbefore (.part (.operand argument) (.of_gap hafter false))
  | @call _ name _ _ _ _ input named hbefore head positional tail hafter =>
      refine ⟨_, ?_, .call head input named⟩
      have hword : Unit name (.word name) := head.unit
      have hrest := positional.row (tail.row hafter)
      simp only [List.append_assoc]
      exact .gap_append hbefore (.part hword hrest)

theorem Row.derives {text : Text} {parts : List Part} {expression : Option Expression}
    (row : Row true text parts) (assembled : Assembled parts expression) :
    Derives text expression := by
  cases assembled with
  | blank => exact .blank row.gap_of_nil
  | operand operand =>
      obtain ⟨before, unit, rest, rfl, hbefore, -, hunit, hrest⟩ := row.exists_of_cons
      cases hunit with
      | operand argument =>
          rw [← List.append_assoc]
          exact .operand hbefore argument hrest.gap_of_nil
  | call head input named =>
      obtain ⟨before, unit, rest, rfl, hbefore, -, hunit, hrest⟩ := row.exists_of_cons
      obtain ⟨first, rest, rfl, positional, hrest⟩ := hrest.exists_input
      obtain ⟨rest, after, rfl, tail, hafter⟩ := hrest.exists_tail
      cases hunit with
      | word hne hword =>
          have derivation := Derives.call hbefore head positional tail hafter
          simp only [List.append_assoc] at derivation
          exact derivation

/-- The texts that the grammar derives are the rows whose parts make up an expression. -/
theorem derives_iff_row {text : Text} {expression : Option Expression} :
    Derives text expression ↔ ∃ parts, Row true text parts ∧ Assembled parts expression := by
  constructor
  · exact Derives.exists_row
  · rintro ⟨parts, row, assembled⟩
    exact row.derives assembled

end Grammar

namespace Expression

/-- What is read from a text anywhere in a template is what the grammar derives. -/
theorem readAt_eq_ok {start : Nat} {text : Text} {expression : Option Expression} :
    readAt start text = .ok expression ↔ Derives text expression := by
  rw [derives_iff_row, readAt, Result.bind_eq_ok]
  constructor
  · rintro ⟨placed, hplaced, h⟩
    exact ⟨_, Part.row_of_list hplaced rfl, ofParts_eq_ok.mp h⟩
  · rintro ⟨parts, row, assembled⟩
    obtain ⟨placed, hplaced, rfl⟩ := row.exists_list start
    exact ⟨placed, hplaced, ofParts_eq_ok.mpr assembled⟩

/-- A text is refused exactly when the grammar derives nothing from it. -/
theorem readAt_eq_error {start : Nat} {text : Text} :
    (∃ error, readAt start text = .error error) ↔ ∀ expression, ¬ Derives text expression := by
  cases h : readAt start text with
  | error error =>
      refine ⟨fun _ expression derivation => ?_, fun _ => ⟨error, rfl⟩⟩
      rw [readAt_eq_ok.mpr derivation] at h
      cases h
  | ok expression =>
      constructor
      · rintro ⟨error, herror⟩
        cases herror
      · intro hnone
        exact absurd (readAt_eq_ok.mp h) (hnone expression)

/-- Reading accepts exactly the grammar: a text gives an expression when, and only when,
that expression is derived from it, and every other text is refused. -/
theorem read_exactly_derives (text : Text) :
    (∀ expression, read text = .ok expression ↔ Derives text expression) ∧
      ((∃ error, read text = .error error) ↔ ¬ ∃ expression, Derives text expression) :=
  ⟨fun _ => readAt_eq_ok, readAt_eq_error.trans not_exists.symm⟩

end Expression

end Stencil
