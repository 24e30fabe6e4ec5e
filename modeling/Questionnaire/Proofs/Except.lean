import Mathlib.Data.List.Basic

namespace Questionnaire

/-!
# Results that may fail

* `Except.bind_eq_ok`, `Except.map_eq_ok`, `Except.mapError_eq_ok` — when the parts of a
  computation have succeeded.
* `Except.bind_eq_error`, `Except.map_eq_error`, `Except.mapError_eq_error` — when they have failed.
* `Except.toOption_eq_some` — a result whose error has been forgotten.
-/

variable {ε ε' α β : Type}

/-- Two computations in turn have a result if the first one has, and the second one from it. -/
theorem Except.bind_eq_ok {x : Except ε α} {f : α → Except ε β} {b : β} :
    x >>= f = .ok b ↔ ∃ a, x = .ok a ∧ f a = .ok b := by
  cases x <;> simp [bind, Except.bind]

/-- A result that is changed comes from a result. -/
theorem Except.map_eq_ok {x : Except ε α} {f : α → β} {b : β} :
    f <$> x = .ok b ↔ ∃ a, x = .ok a ∧ f a = b := by
  cases x <;> simp [Functor.map, Except.map]

/-- Changing errors leaves results. -/
theorem Except.mapError_eq_ok {f : ε → ε'} {x : Except ε α} {a : α} :
    x.mapError f = .ok a ↔ x = .ok a := by
  cases x <;> simp [Except.mapError]

/-- Two computations in turn fail with the error of the first one, or of the second one behind
    it. -/
theorem Except.bind_eq_error {x : Except ε α} {f : α → Except ε β} {e : ε} :
    x >>= f = .error e ↔ x = .error e ∨ ∃ a, x = .ok a ∧ f a = .error e := by
  cases x <;> simp [bind, Except.bind]

/-- Changing results leaves errors. -/
theorem Except.map_eq_error {x : Except ε α} {f : α → β} {e : ε} :
    f <$> x = .error e ↔ x = .error e := by
  cases x <;> simp [Functor.map, Except.map]

/-- An error that is changed comes from an error. -/
theorem Except.mapError_eq_error {f : ε → ε'} {x : Except ε α} {e' : ε'} :
    x.mapError f = .error e' ↔ ∃ e, x = .error e ∧ f e = e' := by
  cases x <;> simp [Except.mapError]

/-- Without errors, only a result is left. -/
theorem Except.toOption_eq_some {e : Except ε α} {a : α} : e.toOption = some a ↔ e = .ok a := by
  cases e <;> simp [Except.toOption]

end Questionnaire
