/-! # Results of readers

A reader either gives a value or refuses. When several run one after another, the
whole gives a value exactly when each of them does.
-/

namespace Stencil.Result

variable {ε ε' α β : Type}

theorem bind_eq_ok {result : Except ε α} {next : α → Except ε β} {b : β} :
    (result >>= next) = .ok b ↔ ∃ a, result = .ok a ∧ next a = .ok b := by
  cases result with
  | error error =>
      constructor
      · intro h
        cases h
      · rintro ⟨a, ha, -⟩
        cases ha
  | ok a =>
      constructor
      · intro h
        exact ⟨a, rfl, h⟩
      · rintro ⟨a, ha, h⟩
        cases ha
        exact h

/-- One after another, results fail with the failure of the first, or with that of the second
after it. -/
theorem bind_eq_error_iff {result : Except ε α} {next : α → Except ε β} {error : ε} :
    (result >>= next) = .error error ↔
      result = .error error ∨ ∃ a, result = .ok a ∧ next a = .error error := by
  cases result with
  | error other =>
      constructor
      · intro h
        cases h
        exact .inl rfl
      · rintro (h | ⟨a, ha, -⟩)
        · cases h
          rfl
        · cases ha
  | ok a =>
      constructor
      · intro h
        exact .inr ⟨a, rfl, h⟩
      · rintro (h | ⟨b, hb, h⟩)
        · cases h
        · cases hb
          exact h

/-- One after another, results fail when the first does, or the second after it. -/
theorem bind_eq_error {result : Except ε α} {next : α → Except ε β} :
    (∃ error, (result >>= next) = .error error) ↔
      (∃ error, result = .error error) ∨ ∃ a, result = .ok a ∧ ∃ error, next a = .error error := by
  simp only [bind_eq_error_iff]
  constructor
  · rintro ⟨error, h | ⟨a, ha, h⟩⟩
    · exact .inl ⟨error, h⟩
    · exact .inr ⟨a, ha, error, h⟩
  · rintro (⟨error, h⟩ | ⟨a, ha, error, h⟩)
    · exact ⟨error, .inl h⟩
    · exact ⟨error, .inr ⟨a, ha, h⟩⟩

theorem map_eq_ok {result : Except ε α} {f : α → β} {b : β} :
    result.map f = .ok b ↔ ∃ a, result = .ok a ∧ f a = b := by
  cases result with
  | error error =>
      constructor
      · intro h
        cases h
      · rintro ⟨a, ha, -⟩
        cases ha
  | ok a =>
      constructor
      · intro h
        cases h
        exact ⟨a, rfl, rfl⟩
      · rintro ⟨a, ha, rfl⟩
        cases ha
        rfl

theorem map_eq_error {result : Except ε α} {f : α → β} {error : ε} :
    result.map f = .error error ↔ result = .error error := by
  cases result with
  | error other =>
      constructor
      · intro h
        cases h
        rfl
      · intro h
        cases h
        rfl
  | ok a =>
      constructor
      · intro h
        cases h
      · intro h
        cases h

theorem mapError_eq_ok {result : Except ε α} {f : ε → ε'} {a : α} :
    result.mapError f = .ok a ↔ result = .ok a := by
  cases result with
  | error error =>
      constructor
      · intro h
        cases h
      · intro h
        cases h
  | ok b =>
      constructor
      · intro h
        cases h
        rfl
      · intro h
        cases h
        rfl

theorem mapError_eq_error_iff {result : Except ε α} {f : ε → ε'} {error : ε'} :
    result.mapError f = .error error ↔ ∃ inner, result = .error inner ∧ f inner = error := by
  cases result with
  | error inner =>
      constructor
      · intro h
        cases h
        exact ⟨inner, rfl, rfl⟩
      · rintro ⟨other, hother, rfl⟩
        cases hother
        rfl
  | ok a =>
      constructor
      · intro h
        cases h
      · rintro ⟨inner, hinner, -⟩
        cases hinner

theorem mapError_eq_error {result : Except ε α} {f : ε → ε'} :
    (∃ error, result.mapError f = .error error) ↔ ∃ error, result = .error error := by
  simp only [mapError_eq_error_iff]
  constructor
  · rintro ⟨_, error, h, -⟩
    exact ⟨error, h⟩
  · rintro ⟨error, h⟩
    exact ⟨f error, error, h, rfl⟩

/-- A result whose value satisfies one condition, or whose failure satisfies another. -/
def Meets (value : α → Prop) (failure : ε → Prop) : Except ε α → Prop
  | .ok a => value a
  | .error error => failure error

/-- One after another, results meet what the last one does, if every failure on the way does. -/
theorem Meets.bind {value : α → Prop} {last : β → Prop} {failure : ε → Prop}
    {result : Except ε α} {next : α → Except ε β} (h : Meets value failure result)
    (hnext : ∀ a, value a → Meets last failure (next a)) :
    Meets last failure (result >>= next) := by
  cases result with
  | error error => exact h
  | ok a => exact hnext a h

/-- Two results that fail with the same failure, or come to values that are related. -/
inductive Corresponds (related : α → β → Prop) : Except ε α → Except ε β → Prop where
  | error (error : ε) : Corresponds related (.error error) (.error error)
  | ok {a : α} {b : β} (hrelated : related a b) : Corresponds related (.ok a) (.ok b)

namespace Corresponds

variable {γ δ : Type} {related : α → β → Prop} {first : Except ε α} {second : Except ε β}

/-- One after another, results correspond if the first ones do, and whatever these come to, the
next ones do. -/
theorem bind {further : γ → δ → Prop} {next : α → Except ε γ} {other : β → Except ε δ}
    (h : Corresponds related first second)
    (hnext : ∀ a b, related a b → Corresponds further (next a) (other b)) :
    Corresponds further (first >>= next) (second >>= other) := by
  cases h with
  | error error => exact .error error
  | ok hrelated => exact hnext _ _ hrelated

theorem mapError (h : Corresponds related first second) (f : ε → ε') :
    Corresponds related (first.mapError f) (second.mapError f) := by
  cases h with
  | error error => exact .error (f error)
  | ok hrelated => exact .ok hrelated

theorem error_or_ok (h : Corresponds related first second) :
    (∃ error, first = .error error ∧ second = .error error) ∨
      ∃ a b, first = .ok a ∧ second = .ok b ∧ related a b := by
  cases h with
  | error error => exact .inl ⟨error, rfl, rfl⟩
  | ok hrelated => exact .inr ⟨_, _, rfl, rfl, hrelated⟩

end Corresponds

end Stencil.Result
