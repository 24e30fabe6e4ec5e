import Questionnaire.Number.Shortest
import Questionnaire.Proofs.Number.Nearest

namespace Questionnaire.Number

/-!
# Shortest decimals

The shortest decimal of a number is looked for among those that are nearest to the number.

* `compareScaled_iff` — scaled integers are compared as rational numbers.
* `readsBack_iff` — a decimal reads back if the number is nearest to it.
* `holds_shortest` — the shortest decimal does.
-/

/-! ### Decimals -/

/-- The decimal as a rational number. -/
def Scaled.value (d : Scaled) : ℚ := d.digits * 10 ^ d.exponent

/-- Scaled integers are compared as rational numbers. -/
theorem compareScaled_iff (a : ℕ) (i : ℤ) (n : ℕ) (j : ℤ) :
    (compareScaled a i n j = .lt ↔ (a * 10 ^ i : ℚ) < n * 2 ^ j) ∧
      (compareScaled a i n j = .eq ↔ (a * 10 ^ i : ℚ) = n * 2 ^ j) ∧
      (compareScaled a i n j = .gt ↔ (n * 2 ^ j : ℚ) < a * 10 ^ i) := by
  have hten : (0 : ℚ) < 10 ^ (-i).toNat := by positivity
  have htwo : (0 : ℚ) < 2 ^ (-j).toNat := by positivity
  -- Both sides are brought to the denominator of the negative powers.
  have hleft : (a * 10 ^ i : ℚ) =
      (a * tenTo i.toNat * twoTo (-j).toNat : ℕ) / (10 ^ (-i).toNat * 2 ^ (-j).toNat) := by
    rw [zpow_eq_div (by norm_num)]
    simp only [Nat.pow_eq]
    push_cast
    field_simp
  have hright : (n * 2 ^ j : ℚ) =
      (n * twoTo j.toNat * tenTo (-i).toNat : ℕ) / (10 ^ (-i).toNat * 2 ^ (-j).toNat) := by
    rw [zpow_eq_div two_ne_zero]
    simp only [Nat.pow_eq]
    push_cast
    field_simp
  have hscale := mul_pos hten htwo
  rw [compareScaled, Nat.compare_eq_lt, Nat.compare_eq_eq, Nat.compare_eq_gt, hleft, hright,
    div_lt_div_iff_of_pos_right hscale, div_lt_div_iff_of_pos_right hscale,
    div_left_inj' hscale.ne']
  norm_cast

variable {b : Binary}

/-- A decimal reads back if the number is nearest to it. -/
theorem readsBack_iff (hpos : 0 < b.mantissa) (d : Scaled) :
    b.readsBack d = true ↔ b.Holds d.value := by
  -- The ends of the interval that reads back are multiples of a quarter of the last digit.
  have hlow : (((if b.narrowBelow then 4 * b.mantissa - 1 else 4 * b.mantissa - 2 : ℕ) : ℚ)) *
      2 ^ (b.exponent - 2) = (b.mantissa - b.reach) * 2 ^ b.exponent := by
    rw [zpow_sub₀ two_ne_zero, Binary.reach]
    split
    · rw [Nat.cast_sub (by omega)]
      push_cast
      ring
    · rw [Nat.cast_sub (by omega)]
      push_cast
      ring
  have hhigh : ((4 * b.mantissa + 2 : ℕ) : ℚ) * 2 ^ (b.exponent - 2) =
      (b.mantissa + 1 / 2) * 2 ^ b.exponent := by
    rw [zpow_sub₀ two_ne_zero]
    push_cast
    ring
  have hfromLow := compareScaled_iff d.digits d.exponent
    (if b.narrowBelow then 4 * b.mantissa - 1 else 4 * b.mantissa - 2) (b.exponent - 2)
  have hfromHigh := compareScaled_iff d.digits d.exponent (4 * b.mantissa + 2) (b.exponent - 2)
  rw [hlow] at hfromLow
  rw [hhigh] at hfromHigh
  simp only [Binary.readsBack, Binary.Holds, Scaled.value, Bool.and_eq_true, Bool.or_eq_true,
    beq_iff_eq, hfromLow, hfromHigh]

/-! ### The search -/

/-- Neighbours on a grid are taken only if they read back. -/
theorem onGrid_readsBack {tie : Tie} {grid : ℤ} {d : Scaled} (h : b.onGrid tie grid = some d) :
    b.readsBack d = true := by
  unfold Binary.onGrid at h
  dsimp only at h
  split at h
  · next hdown hup =>
    split at h <;> cases h
    · exact hdown
    · exact hup
    · split
      · exact hup
      · exact hdown
  · next hdown _ => cases h; exact hdown
  · next _ hup => cases h; exact hup
  · cases h

/-- Moving zeros into the exponent changes no value. -/
theorem strip_value (fuel : ℕ) (d : Scaled) : (Scaled.strip fuel d).value = d.value := by
  induction fuel generalizing d with
  | zero => rfl
  | succ fuel ih =>
    rw [Scaled.strip]
    split
    · next hzero =>
      simp only [Bool.and_eq_true, decide_eq_true_eq, beq_iff_eq] at hzero
      rw [ih, Scaled.value, Scaled.value, zpow_add₀ (by norm_num), zpow_one]
      have hdigits : ((d.digits / 10 : ℕ) : ℚ) * 10 = d.digits := by
        exact_mod_cast Nat.div_mul_cancel (Nat.dvd_of_mod_eq_zero hzero.2)
      rw [← hdigits]
      ring
    · rfl

/-- All digits of a number stand for its value. -/
theorem exact_value (b : Binary) : b.exact.value = b.value := by
  rw [Binary.exact]
  split
  · next hnonneg =>
    rw [Scaled.value, Binary.value, zpow_eq_div two_ne_zero, show (-b.exponent).toNat = 0 by omega]
    simp
  · next hnegative =>
    have hten : (10 : ℚ) ^ b.exponent.natAbs = 2 ^ b.exponent.natAbs * 5 ^ b.exponent.natAbs := by
      rw [← mul_pow]
      norm_num
    rw [Scaled.value, Binary.value, zpow_eq_div two_ne_zero, zpow_eq_div (by norm_num),
      show b.exponent.toNat = 0 by omega, show (-b.exponent).toNat = b.exponent.natAbs by omega,
      hten]
    simp only [Nat.pow_eq]
    push_cast
    field_simp

/-- **Shortest decimals.** A number is nearest to its shortest decimal. -/
theorem holds_shortest (hpos : 0 < b.mantissa) (tie : Tie) : b.Holds (b.shortest tie).value := by
  rw [Binary.shortest, if_neg (by simpa using hpos.ne')]
  dsimp only
  rw [strip_value]
  cases hfound : (List.range 17).findSome? fun (n : ℕ) => b.onGrid tie (b.scale - (n + 1)) with
  | none =>
    rw [Option.getD_none, exact_value]
    exact b.holds_value
  | some d =>
    obtain ⟨n, -, hgrid⟩ := List.exists_of_findSome?_eq_some hfound
    exact (readsBack_iff hpos d).mp (onGrid_readsBack hgrid)

end Questionnaire.Number
