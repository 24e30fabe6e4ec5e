import Mathlib
import Questionnaire.Number.Binary

namespace Questionnaire.Number

open Float.Model (Format totalExponent)
open Float.Model.UnpackedFloat (Accuracy ExtendedMantissa Sign roundWithAccuracy shiftToExponent
  shiftToTargetExponent)

/-!
# Rounding

A number is rounded by shifting its mantissa to the right, with two bits for what has been shifted
out, and then to the nearest mantissa, a half to the even one.

* `Represents` — what a mantissa and its two bits tell of a number.
* `Represents.shiftRight`, `Represents.rounded` — shifting and rounding.
* `Binary.IsCanonical` — the mantissas and exponents of floating point numbers.
* `Binary.Holds` — the numbers that are nearest to a floating point number.
* `roundWithAccuracy_eq` — these round to it.
-/

/-! ### Mantissas -/

variable {em : ExtendedMantissa} {x : ℚ}

/-- A number lies where a mantissa and its two bits say: the first one counts a half, and the second
    one tells that there is something left, which is less than a half. -/
def Represents (em : ExtendedMantissa) (x : ℚ) : Prop :=
  let known : ℚ := em.mantissa + if em.roundBit then 1 / 2 else 0
  if em.stickyBit then known < x ∧ x < known + 1 / 2 else x = known

/-- What is dropped of a number is nothing, less than a half, a half, or more. -/
theorem represents_iff (m : ℕ) (half more : Bool) : Represents ⟨m, half, more⟩ x ↔
    match half, more with
    | false, false => x = m
    | false, true => m < x ∧ x < m + 1 / 2
    | true, false => x = m + 1 / 2
    | true, true => m + 1 / 2 < x ∧ x < m + 1 := by
  have hone : (m : ℚ) + 2⁻¹ + 2⁻¹ = m + 1 := by ring
  cases half <;> cases more <;> simp [Represents, hone]

/-- A number lies from its mantissa up to the next one. -/
theorem Represents.bounds (h : Represents em x) : (em.mantissa : ℚ) ≤ x ∧ x < em.mantissa + 1 := by
  obtain ⟨m, half, more⟩ := em
  rw [represents_iff] at h
  cases half <;> cases more <;> dsimp only at h ⊢ <;> constructor <;> linarith

/-- What is shifted out of the mantissa goes into the bits. -/
theorem Represents.shiftRightOne (h : Represents em x) : Represents em.shiftRightOne (x / 2) := by
  obtain ⟨m, half, more⟩ := em
  rw [represents_iff] at h
  -- An odd mantissa loses a half, which the two flags keep.
  obtain ⟨q, rfl | rfl⟩ := m.even_or_odd'
  · have hbit : (2 * q) / 2 = q ∧ ((2 * q) % 2 != 0) = false := ⟨by omega, by simp⟩
    rw [ExtendedMantissa.shiftRightOne, hbit.1, hbit.2, represents_iff]
    push_cast at h
    cases half <;> cases more <;> dsimp only [Bool.or_true, Bool.or_false] at h ⊢
    case false.false =>
      show x / 2 = q
      linarith
    all_goals constructor <;> linarith
  · have hbit : (2 * q + 1) / 2 = q ∧ ((2 * q + 1) % 2 != 0) = true := ⟨by omega, by simp⟩
    rw [ExtendedMantissa.shiftRightOne, hbit.1, hbit.2, represents_iff]
    push_cast at h
    cases half <;> cases more <;> dsimp only [Bool.or_true, Bool.or_false] at h ⊢
    case false.false =>
      show x / 2 = q + 1 / 2
      linarith
    all_goals constructor <;> linarith

/-- Shifting by some digits divides by a power of two, and forgets no more than has been dropped. -/
theorem Represents.shiftRight (h : Represents em x) (n : ℕ) :
    Represents (em >>> n) (x / 2 ^ n) := by
  induction n with
  | zero =>
    have hzero : em >>> 0 = em := rfl
    rwa [hzero, pow_zero, div_one]
  | succ n ih =>
    have hstep : (em >>> (n + 1)) = (em >>> n).shiftRightOne := rfl
    rw [hstep, pow_succ, ← div_div]
    exact ih.shiftRightOne

/-- The mantissa that is nearest, and the even one of two. -/
theorem Represents.rounded (h : Represents em x) {m : ℕ}
    (hlow : (m : ℚ) - 1 / 2 < x ∨ m % 2 = 0 ∧ x = m - 1 / 2)
    (hhigh : x < m + 1 / 2 ∨ m % 2 = 0 ∧ x = m + 1 / 2) : em.roundedMantissa = m := by
  obtain ⟨n, half, more⟩ := em
  rw [represents_iff] at h
  have hle : (m : ℚ) - 1 / 2 ≤ x ∧ x ≤ m + 1 / 2 :=
    ⟨hlow.elim le_of_lt fun h => h.2.ge, hhigh.elim le_of_lt fun h => h.2.le⟩
  cases half <;> cases more <;> dsimp only at h
  · show n = m
    have hup : (2 * m : ℚ) ≤ 2 * n + 1 := by linarith
    have hdown : (2 * n : ℚ) ≤ 2 * m + 1 := by linarith
    norm_cast at hup hdown
    omega
  · show n = m
    have hup : (m : ℚ) < n + 1 := by linarith
    have hdown : (n : ℚ) < m + 1 := by linarith
    norm_cast at hup hdown
    omega
  · -- a half goes to the even neighbour
    show n + n % 2 = m
    have hup : (m : ℚ) ≤ n + 1 := by linarith
    have hdown : (n : ℚ) ≤ m := by linarith
    norm_cast at hup hdown
    obtain rfl | rfl : m = n ∨ m = n + 1 := by omega
    · have heven : m % 2 = 0 := hhigh.elim (fun hlt => absurd hlt (by linarith)) And.left
      omega
    · have heven : (n + 1) % 2 = 0 := by
        refine hlow.elim (fun hlt => absurd hlt ?_) And.left
        push_cast
        linarith
      omega
  · show n + 1 = m
    have hup : (m : ℚ) < n + 2 := by linarith
    have hdown : (n : ℚ) < m := by linarith
    norm_cast at hup hdown
    omega

/-! ### Accuracies -/

/-- Where nothing is dropped, a mantissa stands for itself. -/
theorem represents_exact (m : ℕ) :
    Represents (ExtendedMantissa.ofMantissaAndAccuracy m .exact) m := by
  simp [ExtendedMantissa.ofMantissaAndAccuracy, represents_iff]

/-- A quotient with its remainder tells where the fraction lies. -/
theorem represents_fraction (n : ℕ) {d : ℕ} (hd : 0 < d) :
    Represents (ExtendedMantissa.ofMantissaAndAccuracy (n / d)
      (Float.Model.UnpackedFloat.accuracyOfFraction (n % d) d)) (n / d) := by
  have hpos : (0 : ℚ) < d := by exact_mod_cast hd
  have hsplit : (n : ℚ) / d = (n / d : ℕ) + (n % d : ℕ) / (d : ℚ) := by
    rw [add_comm, div_add' _ _ _ hpos.ne']
    congr 1
    exact_mod_cast (Nat.mod_add_div' n d).symm
  have hlt : ((n % d : ℕ) : ℚ) / d < 1 := by
    rw [div_lt_one hpos]
    exact_mod_cast Nat.mod_lt n hd
  -- The remainder decides on which side of the half the fraction lies.
  rw [hsplit]
  generalize n / d = q
  generalize n % d = r at hlt
  unfold Float.Model.UnpackedFloat.accuracyOfFraction
  split
  · next hzero =>
    rw [hzero, Nat.cast_zero, zero_div, add_zero]
    exact represents_exact q
  · next hr =>
    have hr : (0 : ℚ) < r / d := div_pos (by exact_mod_cast Nat.pos_of_ne_zero hr) hpos
    cases hcompare : compare (2 * r) d with
    | lt =>
      have hhalf : (r : ℚ) / d < 1 / 2 := by
        rw [div_lt_div_iff₀ hpos two_pos]
        have hnat : 2 * r < d := Nat.compare_eq_lt.mp hcompare
        have hcast : (2 * r : ℚ) < d := by exact_mod_cast hnat
        linarith
      exact (represents_iff q false true).mpr ⟨by linarith, by linarith⟩
    | eq =>
      have hhalf : (r : ℚ) / d = 1 / 2 := by
        rw [div_eq_div_iff hpos.ne' two_ne_zero]
        have hnat : 2 * r = d := Nat.compare_eq_eq.mp hcompare
        have hcast : (2 * r : ℚ) = d := by exact_mod_cast hnat
        linarith
      exact (represents_iff q true false).mpr (by rw [hhalf])
    | gt =>
      have hhalf : (1 : ℚ) / 2 < r / d := by
        rw [div_lt_div_iff₀ two_pos hpos]
        have hnat : d < 2 * r := Nat.compare_eq_gt.mp hcompare
        have hcast : (d : ℚ) < 2 * r := by exact_mod_cast hnat
        linarith
      exact (represents_iff q true true).mpr ⟨by linarith, by linarith⟩

/-! ### Floating point numbers -/

/-- A mantissa and an exponent of a floating point number that is neither zero nor infinite: the
    mantissa has all its 53 digits unless the exponent is the least one. -/
structure Binary.IsCanonical (b : Binary) : Prop where
  pos : 0 < b.mantissa
  lt : b.mantissa < 2 ^ 53
  least : -1074 ≤ b.exponent
  greatest : b.exponent ≤ 971
  full : 2 ^ 52 ≤ b.mantissa ∨ b.exponent = -1074
  narrow : b.narrowBelow = true ↔ b.mantissa = 2 ^ 52 ∧ -1074 < b.exponent

/-- Half of the way down to the next number, in units of the last digit. -/
def Binary.reach (b : Binary) : ℚ := if b.narrowBelow then 1 / 4 else 1 / 2

/-- A number is nearest to a floating point number: it lies between the midpoints to the neighbours,
    and the midpoints belong to a number with an even mantissa. -/
def Binary.Holds (b : Binary) (v : ℚ) : Prop :=
  let low := ((b.mantissa : ℚ) - b.reach) * 2 ^ b.exponent
  let high := ((b.mantissa : ℚ) + 1 / 2) * 2 ^ b.exponent
  (low < v ∨ b.mantissa % 2 = 0 ∧ v = low) ∧ (v < high ∨ b.mantissa % 2 = 0 ∧ v = high)

/-- The magnitude as a rational number. -/
def Binary.value (b : Binary) : ℚ := b.mantissa * 2 ^ b.exponent

variable {b : Binary}

/-- The reach of a magnitude is not zero. -/
theorem Binary.reach_pos (b : Binary) : 0 < b.reach := by
  unfold Binary.reach
  split <;> norm_num

/-- The reach of a magnitude is a half at most. -/
theorem Binary.reach_le (b : Binary) : b.reach ≤ 1 / 2 := by
  unfold Binary.reach
  split <;> norm_num

/-- A floating point number is nearest to itself. -/
theorem Binary.holds_value (b : Binary) : b.Holds b.value := by
  have hpos : (0 : ℚ) < 2 ^ b.exponent := by positivity
  have hreach := b.reach_pos
  constructor
  · exact .inl (mul_lt_mul_of_pos_right (by linarith) hpos)
  · exact .inl (mul_lt_mul_of_pos_right (by linarith) hpos)

/-- The midpoints in units of the last digit. -/
theorem Binary.holds_mul (b : Binary) (y : ℚ) : b.Holds (y * 2 ^ b.exponent) ↔
    (b.mantissa - b.reach < y ∨ b.mantissa % 2 = 0 ∧ y = b.mantissa - b.reach) ∧
      (y < b.mantissa + 1 / 2 ∨ b.mantissa % 2 = 0 ∧ y = b.mantissa + 1 / 2) := by
  have hpos : (0 : ℚ) < 2 ^ b.exponent := by positivity
  simp only [Binary.Holds, mul_lt_mul_iff_left₀ hpos, mul_left_inj' hpos.ne']

/-- A magnitude holds what lies between the midpoints to its neighbours. -/
theorem Binary.Holds.bounds {v : ℚ} (h : b.Holds v) :
    (b.mantissa - b.reach) * 2 ^ b.exponent ≤ v ∧ v ≤ (b.mantissa + 1 / 2) * 2 ^ b.exponent :=
  ⟨h.1.elim le_of_lt fun h => h.2.ge, h.2.elim le_of_lt fun h => h.2.le⟩

/-! ### Rounding -/

/-- A number has 53 binary digits, as far as exponents go. -/
theorem targetExponent_binary64 (t : ℤ) :
    Format.targetExponent .binary64 t = max (t - 53) (-1074) := rfl

/-- What a mantissa tells of a number stays told when it is shifted. -/
theorem Represents.shifted {m : ℕ} {e t : ℤ} {acc : Accuracy}
    (h : Represents (ExtendedMantissa.ofMantissaAndAccuracy m acc) x) (ht : e ≤ t) :
    ∃ em, shiftToExponent m e acc t = (em, t) ∧ Represents em (x * 2 ^ (e - t)) := by
  refine ⟨ExtendedMantissa.ofMantissaAndAccuracy m acc >>> (t - e).toNat, ?_, ?_⟩
  · rw [shiftToExponent, Int.toNat_of_nonneg (by omega), add_sub_cancel]
  · have hpow : (2 : ℚ) ^ (e - t) = 1 / 2 ^ (t - e).toNat := by
      rw [← zpow_natCast, Int.toNat_of_nonneg (by omega), one_div, ← zpow_neg, neg_sub]
    rw [hpow, mul_one_div]
    exact h.shiftRight _

/-- A mantissa of at most 53 digits is not shifted. -/
theorem shiftToTargetExponent_fits {m : ℕ} {e : ℤ} (hm : m < 2 ^ 53) (he : -1074 ≤ e) :
    shiftToTargetExponent .binary64 m e .exact = (⟨m, false, false⟩, e) := by
  have hlog : m.log2 < 53 := by
    by_cases hzero : m = 0
    · simp [hzero]
    · exact (Nat.log2_lt hzero).mpr hm
  have hshift : (Format.targetExponent .binary64 (totalExponent m e) - e).toNat = 0 := by
    rw [targetExponent_binary64, totalExponent]
    omega
  simp only [shiftToTargetExponent, shiftToExponent, hshift]
  exact congrArg _ (add_zero e)

/-- A mantissa that has got one digit more is shifted by it. -/
theorem shiftToTargetExponent_carry {e : ℤ} (he : -1074 ≤ e + 1) :
    shiftToTargetExponent .binary64 (2 ^ 53) e .exact = (⟨2 ^ 52, false, false⟩, e + 1) := by
  have hshift : (Format.targetExponent .binary64 (totalExponent (2 ^ 53) e) - e).toNat = 1 := by
    rw [targetExponent_binary64, totalExponent, Nat.log2_two_pow]
    omega
  simp only [shiftToTargetExponent, shiftToExponent, hshift]
  rfl

/-- The leading digit of a mantissa bounds the numbers that it may stand for. -/
theorem Represents.total_bounds {m : ℕ} {acc : Accuracy}
    (h : Represents (ExtendedMantissa.ofMantissaAndAccuracy m acc) x) (e : ℤ) :
    (m ≠ 0 → (2 : ℚ) ^ (totalExponent m e - 1) ≤ x * 2 ^ e) ∧
      x * 2 ^ e < 2 ^ totalExponent m e := by
  -- The accuracy only tells how far above the mantissa the number lies.
  have hmantissa : (ExtendedMantissa.ofMantissaAndAccuracy m acc).mantissa = m := by
    unfold ExtendedMantissa.ofMantissaAndAccuracy
    split <;> rfl
  have hbounds := h.bounds
  rw [hmantissa] at hbounds
  have hpos : (0 : ℚ) < 2 ^ e := by positivity
  rw [totalExponent]
  constructor
  · intro hm
    have hpow : (2 : ℚ) ^ m.log2 ≤ m := by exact_mod_cast Nat.log2_self_le hm
    calc (2 : ℚ) ^ (m.log2 + 1 + e - 1 : ℤ) = 2 ^ m.log2 * 2 ^ e := by
          rw [← zpow_natCast, ← zpow_add₀ two_ne_zero]
          congr 1
          omega
      _ ≤ x * 2 ^ e := mul_le_mul_of_nonneg_right (hpow.trans hbounds.1) hpos.le
  · have hpow : (m : ℚ) + 1 ≤ 2 ^ (m.log2 + 1) := by exact_mod_cast Nat.lt_log2_self
    calc x * 2 ^ e < 2 ^ (m.log2 + 1) * 2 ^ e :=
          mul_lt_mul_of_pos_right (hbounds.2.trans_le hpow) hpos
      _ = 2 ^ (m.log2 + 1 + e : ℤ) := by
          rw [← zpow_natCast, ← zpow_add₀ two_ne_zero, Nat.cast_succ]

/-- Powers of two with exponents in order are in order. -/
theorem two_zpow_le {i j k : ℤ} (h : i ≤ j + k) : (2 : ℚ) ^ i ≤ 2 ^ j * 2 ^ k := by
  rw [← zpow_add₀ two_ne_zero]
  exact zpow_le_zpow_right₀ one_le_two h

/-- The exponent to which a number is shifted is that of the floating point number it is nearest
    to, or it lies just below a power of two and has one digit more. -/
theorem Binary.IsCanonical.target (hb : b.IsCanonical) {v : ℚ} (hv : b.Holds v) {t : ℤ}
    (hlow : -1021 < t → (2 : ℚ) ^ (t - 1) ≤ v) (hhigh : v < 2 ^ t) :
    Format.targetExponent .binary64 t = b.exponent ∨
      b.mantissa = 2 ^ 52 ∧ b.narrowBelow = true ∧ v < 2 ^ 53 * 2 ^ (b.exponent - 1) ∧
        Format.targetExponent .binary64 t = b.exponent - 1 := by
  rw [targetExponent_binary64]
  have hbounds := hv.bounds
  have hreach := b.reach_le
  have hpos : (0 : ℚ) < 2 ^ b.exponent := by positivity
  -- The number has no more digits than the mantissa,
  have hupper : t ≤ b.exponent + 53 ∨ t ≤ -1021 := by
    by_contra! hcontra
    have hpow : (2 : ℚ) ^ (53 : ℤ) * 2 ^ b.exponent ≤ 2 ^ (t - 1) := by
      rw [← zpow_add₀ two_ne_zero]
      exact zpow_le_zpow_right₀ one_le_two (by omega)
    have hmantissa : (b.mantissa : ℚ) + 1 ≤ 2 ^ (53 : ℤ) := by exact_mod_cast hb.lt
    have hless : ((b.mantissa : ℚ) + 1 / 2) * 2 ^ b.exponent < 2 ^ (53 : ℤ) * 2 ^ b.exponent :=
      mul_lt_mul_of_pos_right (by linarith) hpos
    have := hlow hcontra.2
    linarith
  -- and no fewer, unless it lies just below a power of two.
  have hlower (hfull : (2 : ℚ) ^ 52 ≤ b.mantissa - b.reach) : b.exponent + 53 ≤ t := by
    by_contra! hcontra
    have hpow : (2 : ℚ) ^ t ≤ 2 ^ (52 : ℤ) * 2 ^ b.exponent := two_zpow_le (by omega)
    have hless : (2 : ℚ) ^ (52 : ℤ) * 2 ^ b.exponent ≤ (b.mantissa - b.reach) * 2 ^ b.exponent :=
      mul_le_mul_of_nonneg_right hfull hpos.le
    linarith
  have hleast := hb.least
  by_cases hexponent : b.exponent = -1074
  · left
    omega
  have hfull : 2 ^ 52 ≤ b.mantissa := hb.full.resolve_right hexponent
  by_cases hpower : b.mantissa = 2 ^ 52
  · have hlast : b.exponent + 52 ≤ t := by
      by_contra! hcontra
      have hpow : (2 : ℚ) ^ t ≤ 2 ^ (51 : ℤ) * 2 ^ b.exponent := two_zpow_le (by omega)
      have hless :
          (2 : ℚ) ^ (51 : ℤ) * 2 ^ b.exponent ≤ (b.mantissa - b.reach) * 2 ^ b.exponent := by
        refine mul_le_mul_of_nonneg_right ?_ hpos.le
        rw [hpower]
        norm_num
        linarith
      linarith
    rcases hlast.eq_or_lt with rfl | hlt
    · right
      refine ⟨hpower, hb.narrow.mpr ⟨hpower, by omega⟩, ?_, by omega⟩
      rwa [← zpow_natCast, ← zpow_add₀ two_ne_zero, show ((53 : ℕ) : ℤ) + (b.exponent - 1) =
        b.exponent + 52 by omega]
    · left
      omega
  · left
    have hmore : (2 : ℚ) ^ 52 + 1 ≤ b.mantissa := by
      have hnat : 2 ^ 52 + 1 ≤ b.mantissa := by omega
      exact_mod_cast hnat
    have := hlower (by linarith)
    omega

/-- A number in units of the last digit is rounded to the mantissa that it is nearest to. -/
theorem Binary.Holds.roundedMantissa (h : b.Holds (x * 2 ^ b.exponent)) (hem : Represents em x) :
    em.roundedMantissa = b.mantissa := by
  rw [b.holds_mul] at h
  have hreach := b.reach_le
  refine hem.rounded ?_ h.2
  rcases h.1, hreach.eq_or_lt with ⟨hlow | ⟨heven, hlow⟩, hreach | hreach⟩
  · exact .inl (by linarith)
  · exact .inl (by linarith)
  · exact .inr ⟨heven, by rw [hlow, hreach]⟩
  · exact .inl (by linarith)

/-- Just below a power of two it has one digit more and is rounded up. -/
theorem Binary.Holds.roundedMantissa_below (h : b.Holds (x * 2 ^ (b.exponent - 1)))
    (hem : Represents em x) (hpower : b.mantissa = 2 ^ 52) (hnarrow : b.narrowBelow = true)
    (hbelow : x * 2 ^ (b.exponent - 1) < 2 ^ 53 * 2 ^ (b.exponent - 1)) :
    em.roundedMantissa = 2 ^ 53 := by
  have hreach : b.reach = 1 / 4 := by rw [Binary.reach, if_pos hnarrow]
  have hhalf : (0 : ℚ) < 2 ^ (b.exponent - 1) := by positivity
  have hunit : (2 : ℚ) ^ b.exponent = 2 * 2 ^ (b.exponent - 1) := by
    rw [← zpow_one_add₀ two_ne_zero, add_sub_cancel]
  have hlow := h.bounds.1
  rw [hreach, hpower, hunit, ← mul_assoc] at hlow
  have hle := le_of_mul_le_mul_right hlow hhalf
  have hlt := lt_of_mul_lt_mul_right hbelow hhalf.le
  -- Below a power of two the floats are twice as dense, so the nearest one has a digit more there.
  push_cast at hle
  apply hem.rounded
  · rcases hle.eq_or_lt with heq | hlt
    · exact .inr ⟨rfl, by rw [← heq]; norm_num⟩
    · exact .inl (by push_cast; linarith)
  · exact .inl (by push_cast; linarith)

/-- **Rounding.** A mantissa with its accuracy is rounded to the floating point number that the
    number it stands for is nearest to. -/
theorem roundWithAccuracy_eq (hb : b.IsCanonical) {m : ℕ} {e : ℤ} {acc : Accuracy}
    (hx : Represents (ExtendedMantissa.ofMantissaAndAccuracy m acc) x) (hv : b.Holds (x * 2 ^ e))
    (he : e ≤ Format.targetExponent .binary64 (totalExponent m e)) (s : Sign) :
    roundWithAccuracy .binary64 s m e acc = .finite s b.mantissa b.exponent hb.pos := by
  obtain ⟨em, hshift, hem⟩ := hx.shifted he
  have htotal := hx.total_bounds e
  -- Without any digit, the mantissa has the least exponent.
  have hdigits (ht : -1021 < totalExponent m e) : m ≠ 0 := by
    rintro rfl
    rw [targetExponent_binary64, totalExponent, Nat.log2_zero] at he
    rw [totalExponent, Nat.log2_zero] at ht
    omega
  have htarget := hb.target hv (fun ht => htotal.1 (hdigits ht)) htotal.2
  have hscale (t : ℤ) : x * 2 ^ e = x * 2 ^ (e - t) * 2 ^ t := by
    rw [mul_assoc, ← zpow_add₀ two_ne_zero, sub_add_cancel]
  rw [roundWithAccuracy, shiftToTargetExponent, hshift]
  rcases htarget with htarget | ⟨hpower, hnarrow, hbelow, htarget⟩
  · rw [htarget] at hem ⊢
    rw [hscale b.exponent] at hv
    simp only [hv.roundedMantissa hem, shiftToTargetExponent_fits hb.lt hb.least,
      dif_neg hb.pos.ne']
  · rw [htarget] at hem ⊢
    rw [hscale (b.exponent - 1)] at hv hbelow
    have hcarry := shiftToTargetExponent_carry (e := b.exponent - 1) (by have := hb.least; omega)
    rw [sub_add_cancel] at hcarry
    simp only [hv.roundedMantissa_below hem hpower hnarrow hbelow, hcarry, hpower]
    rfl

end Questionnaire.Number
