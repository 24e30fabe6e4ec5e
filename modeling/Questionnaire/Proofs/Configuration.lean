import Questionnaire.Configuration.Check
import Questionnaire.Proofs.Number.Integer

namespace Questionnaire

open Number (rational)

/-!
# Checked configurations

A configuration that has been checked shows its reports for a finite number of seconds that is not
negative.  It may still be too long for a duration.

* `Number.larger_zero` — the larger one of zero and a number that is not negative.
* `Duration.ofSeconds_eq` — which numbers of seconds are durations, and of how many nanoseconds.
* `Configuration.check_reportTime` — how long the reports of a checked configuration stay visible.
-/

/-! ### Durations -/

/-- A finite number that is not negative is the larger one of itself and zero. -/
theorem Number.larger_zero {x : Float} (hfinite : x.isFinite = true) (h : ¬ x < 0) :
    larger x 0 = x := by
  rw [larger, not_isNaN hfinite, if_neg (by simpa using h)]

/-- Seconds are counted in nanoseconds below `2 ^ 64`. -/
theorem Duration.ofSeconds_eq {x : Float} (hfinite : x.isFinite = true) (h : 0 ≤ rational x) :
    ((ofSeconds? x).isSome = true ↔ rational x < 2 ^ 64)
      ∧ ∀ time, ofSeconds? x = some time →
        |(time.nanoseconds : ℚ) - rational x * 10 ^ 9| ≤ 1 / 2 := by
  obtain ⟨hlimit, hvalue⟩ := Number.rational_ofNat (show Number.twoTo 64 ≤ 2 ^ 64 from le_rfl)
  have hexact : Number.rounded (Number.twoTo 64) = Number.twoTo 64 := by decide +kernel
  -- The limit is a power of two, and so it is a float itself.
  have hless : x < Float.ofNat (Number.twoTo 64) ↔ rational x < 2 ^ 64 := by
    rw [Number.lt_iff hfinite hlimit, hvalue, hexact]
    norm_num
  rw [ofSeconds?, hfinite, Bool.true_and]
  constructor
  · by_cases hlt : x < Float.ofNat (Number.twoTo 64)
    · simp [hlt, hless.mp hlt]
    · simp [hlt, mt hless.mpr hlt]
  · intro time htime
    split at htime
    · obtain rfl := Option.some.inj htime
      rw [← Number.value_of_nonneg h]
      exact Number.units_near 9 _
    · cases htime

/-! ### Configurations -/

namespace Configuration

variable {c : Configuration} {registry : Registry}

/-- A configuration passes the check only with a time for reports that is finite and not
    negative. -/
theorem check_eq_ok (h : c.check registry = .ok ()) :
    c.session.reportSeconds.isFinite = true ∧ ¬ c.session.reportSeconds < 0 := by
  unfold check at h
  dsimp only at h
  split at h
  · cases h
  · next hseconds => simpa using hseconds

/-- **Reports.** The reports of a checked configuration stay visible for its number of seconds, to
    the nearest nanosecond, if there are fewer than `2 ^ 64` of them. -/
theorem check_reportTime (h : c.check registry = .ok ()) :
    0 ≤ rational c.session.reportSeconds
      ∧ (c.session.reportTime?.isSome = true ↔ rational c.session.reportSeconds < 2 ^ 64)
      ∧ ∀ time, c.session.reportTime? = some time →
        |(time.nanoseconds : ℚ) - rational c.session.reportSeconds * 10 ^ 9| ≤ 1 / 2 := by
  obtain ⟨hfinite, hless⟩ := check_eq_ok h
  have hnonneg : 0 ≤ rational c.session.reportSeconds := by
    have hzero : (0 : Float).isFinite = true := rfl
    rw [Number.lt_iff hfinite hzero, Number.rational_zero, not_lt] at hless
    exact hless
  rw [SessionSettings.reportTime?, Number.larger_zero hfinite hless]
  exact ⟨hnonneg, Duration.ofSeconds_eq hfinite hnonneg⟩

/-- Two seconds and a half. -/
theorem check_reportTime_default :
    Configuration.check {} (.builtin fun _ => ⟨0, 0, 0⟩) = .ok ()
      ∧ SessionSettings.reportTime? {} = some ⟨2500000000⟩
      ∧ |((2500000000 : ℕ) : ℚ) - rational 2.5 * 10 ^ 9| ≤ 1 / 2 := by
  have hcheck : Configuration.check {} (.builtin fun _ => ⟨0, 0, 0⟩) = .ok () := by rfl
  have htime : SessionSettings.reportTime? {} = some ⟨2500000000⟩ := by decide +kernel
  obtain ⟨-, -, hnear⟩ := check_reportTime hcheck
  exact ⟨hcheck, htime, hnear _ htime⟩

/-- More seconds than a duration can count. -/
theorem check_reportTime_long :
    Configuration.check { session := { reportSeconds := 1e20 } } (.builtin fun _ => ⟨0, 0, 0⟩)
        = .ok ()
      ∧ SessionSettings.reportTime? { reportSeconds := 1e20 } = none :=
  ⟨by rfl, by rfl⟩

end Configuration

end Questionnaire
