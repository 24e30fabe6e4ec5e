import Questionnaire.Number.Read
import Questionnaire.Proofs.Number.Packed

namespace Questionnaire.Number

open Float.Model (Format UnpackedFloat totalExponent)
open Float.Model.UnpackedFloat (roundWithAccuracy divCore)

/-!
# Reading decimals

A decimal is read as the floating point number that it is nearest to.

* `mul_eq`, `div_eq` — an exact product or quotient is rounded once.
* `exponent_range` — the exponents of the decimals that are nearest to floating point numbers, which
  are those that are computed.
* `ofScientific_small` — small decimals have a shorter way, on which both operands are exact.
* `nearest_eq` — the number nearest to a decimal.
-/

/-! ### Products and quotients -/

variable {a b c : Binary}

/-- A mantissa with at least 53 digits is rounded. -/
theorem le_targetExponent {m : ℕ} (h : 2 ^ 52 ≤ m) (e : ℤ) :
    e ≤ Format.targetExponent .binary64 (totalExponent m e) := by
  have hlog : 52 ≤ m.log2 := (Nat.le_log2 (by omega)).mpr h
  rw [targetExponent_binary64, totalExponent]
  omega

/-- A product is the floating point number that it is nearest to. -/
theorem mul_eq (hb : b.IsCanonical) {m n : ℕ} {i j : ℤ} (hm : 0 < m) (hn : 0 < n)
    (hfull : 2 ^ 52 ≤ m * n) (hv : b.Holds ((m * 2 ^ i) * (n * 2 ^ j))) :
    UnpackedFloat.mul .binary64 (.finite .positive m i hm) (.finite .positive n j hn) =
      .finite .positive b.mantissa b.exponent hb.pos := by
  have hproduct : ((m * 2 ^ i) * (n * 2 ^ j) : ℚ) = (m * n : ℕ) * 2 ^ (i + j) := by
    rw [zpow_add₀ two_ne_zero]
    push_cast
    ring
  rw [hproduct] at hv
  exact roundWithAccuracy_eq hb (represents_exact _) hv (le_targetExponent hfull _) _

/-- A quotient is the floating point number that it is nearest to. -/
theorem div_eq (hb : b.IsCanonical) {m n : ℕ} {i j : ℤ} (hm : 0 < m) (hn : 0 < n)
    (hv : b.Holds ((m * 2 ^ i) / (n * 2 ^ j))) :
    UnpackedFloat.div .binary64 (.finite .positive m i hm) (.finite .positive n j hn) =
      .finite .positive b.mantissa b.exponent hb.pos := by
  have hgoal : UnpackedFloat.div .binary64 (.finite .positive m i hm) (.finite .positive n j hn) =
      roundWithAccuracy .binary64 .positive (divCore .binary64 m i n j).1
        (divCore .binary64 m i n j).2.1 (divCore .binary64 m i n j).2.2 := rfl
  rw [hgoal, divCore]
  dsimp only
  rw [targetExponent_binary64]
  have htotal : totalExponent m i - totalExponent n j = m.log2 + i - (n.log2 + j) := by
    rw [totalExponent, totalExponent]
    omega
  rw [htotal]
  obtain ⟨t, ht⟩ : ∃ t, t = min (i - j) (max (m.log2 + i - (n.log2 + j) - 53 : ℤ) (-1074)) :=
    ⟨_, rfl⟩
  rw [← ht, Nat.shiftLeft_eq]
  obtain ⟨k, hk⟩ : ∃ k : ℕ, i - j - t = k := ⟨(i - j - t).toNat, by omega⟩
  have hquotient : ((m * 2 ^ i) / (n * 2 ^ j) : ℚ) = ((m * 2 ^ k : ℕ) / n) * 2 ^ t := by
    have hi : i = k + t + j := by omega
    rw [hi, zpow_add₀ two_ne_zero, zpow_add₀ two_ne_zero, zpow_natCast]
    push_cast
    field_simp
  rw [hquotient] at hv
  rw [hk, Int.toNat_natCast]
  refine roundWithAccuracy_eq hb (represents_fraction _ hn) hv ?_ _
  -- Either the exponent is small enough, or the quotient has all its digits.
  by_cases hleast : t ≤ -1074
  · rw [targetExponent_binary64]
    omega
  apply le_targetExponent
  rw [Nat.le_div_iff_mul_le hn]
  calc 2 ^ 52 * n ≤ 2 ^ 52 * 2 ^ (n.log2 + 1) := Nat.mul_le_mul_left _ Nat.lt_log2_self.le
    _ = 2 ^ (n.log2 + 53) := by rw [← pow_add]; congr 1; omega
    _ ≤ 2 ^ (m.log2 + k) := Nat.pow_le_pow_right two_pos (by omega)
    _ = 2 ^ m.log2 * 2 ^ k := pow_add _ _ _
    _ ≤ m * 2 ^ k := Nat.mul_le_mul_right _ (Nat.log2_self_le hm.ne')

/-! ### Exponents -/

/-- What is nearest to a floating point number is neither too small nor too large. -/
theorem Binary.IsCanonical.range (hb : b.IsCanonical) {v : ℚ} (hv : b.Holds v) :
    2 ^ (-1075 : ℤ) ≤ v ∧ v < 2 ^ (1024 : ℤ) := by
  have hbounds := hv.bounds
  have hreach := b.reach_le
  have hpos : (0 : ℚ) < 2 ^ b.exponent := by positivity
  have hone : (1 : ℚ) ≤ b.mantissa := by exact_mod_cast hb.pos
  -- The extreme exponents bound what rounds to a float at all.
  constructor
  · have hleast : (2 : ℚ) ^ (-1074 : ℤ) ≤ 2 ^ b.exponent := zpow_le_zpow_right₀ one_le_two hb.least
    calc (2 : ℚ) ^ (-1075 : ℤ) = 1 / 2 * 2 ^ (-1074 : ℤ) := by
          rw [show (-1075 : ℤ) = -1 + -1074 by omega, zpow_add₀ two_ne_zero, zpow_neg_one, one_div]
      _ ≤ 1 / 2 * 2 ^ b.exponent := by linarith
      _ ≤ (b.mantissa - b.reach) * 2 ^ b.exponent :=
        mul_le_mul_of_nonneg_right (by linarith) hpos.le
      _ ≤ v := hbounds.1
  · have hmantissa : (b.mantissa : ℚ) + 1 ≤ 2 ^ (53 : ℤ) := by exact_mod_cast hb.lt
    calc v ≤ (b.mantissa + 1 / 2) * 2 ^ b.exponent := hbounds.2
      _ < 2 ^ (53 : ℤ) * 2 ^ b.exponent := mul_lt_mul_of_pos_right (by linarith) hpos
      _ = 2 ^ (53 + b.exponent) := (zpow_add₀ two_ne_zero _ _).symm
      _ ≤ 2 ^ (1024 : ℤ) := zpow_le_zpow_right₀ one_le_two (by have := hb.greatest; omega)

/-- An integer power is a quotient of natural powers, one of which is one. -/
theorem zpow_eq_div {x : ℚ} (hx : x ≠ 0) (e : ℤ) : x ^ e = x ^ e.toNat / x ^ (-e).toNat := by
  rw [← zpow_natCast, ← zpow_natCast, ← zpow_sub₀ hx]
  congr 1
  omega

/-- A digit in base ten counts more than three in base two. -/
theorem two_zpow_le_ten {e : ℤ} (h : 0 ≤ e) : (2 : ℚ) ^ (3 * e) ≤ 10 ^ e := by
  rw [zpow_mul]
  exact zpow_le_zpow_left₀ h (by norm_num) (by norm_num)

/-- For exponents that are not positive, powers of ten are at most those of eight. -/
theorem ten_zpow_le_two {e : ℤ} (h : e ≤ 0) : (10 : ℚ) ^ e ≤ 2 ^ (3 * e) := by
  have hle := two_zpow_le_ten (neg_nonneg.mpr h)
  rw [mul_neg, zpow_neg, zpow_neg] at hle
  exact (inv_le_inv₀ (by positivity) (by positivity)).mp hle

/-- The exponents of the decimals that are nearest to floating point numbers. -/
theorem exponent_range (hb : b.IsCanonical) {n : ℕ} {e : ℤ} (hv : b.Holds (n * 10 ^ e)) :
    0 < n ∧ e ≤ 400 ∧ ∀ count : ℕ, n < 10 ^ count → -400 ≤ e + count := by
  have hrange := hb.range hv
  have hpos : (0 : ℚ) < 2 ^ (-1075 : ℤ) := by positivity
  have hn : 0 < n := by
    by_contra hzero
    obtain rfl : n = 0 := Nat.eq_zero_of_not_pos hzero
    rw [Nat.cast_zero, zero_mul] at hrange
    exact absurd hrange.1 hpos.not_ge
  have hten : (0 : ℚ) < 10 ^ e := by positivity
  refine ⟨hn, ?_, fun count hcount => ?_⟩
  -- A decimal of this size is above all floats.
  · by_contra! hcontra
    have hone : (1 : ℚ) ≤ n := by exact_mod_cast hn
    have hlarge : (2 : ℚ) ^ (1024 : ℤ) ≤ 2 ^ (3 * e) := zpow_le_zpow_right₀ one_le_two (by omega)
    have hexponent : (2 : ℚ) ^ (3 * e) ≤ 10 ^ e := two_zpow_le_ten (by omega)
    have hle : (10 : ℚ) ^ e ≤ n * 10 ^ e := le_mul_of_one_le_left hten.le hone
    linarith
  -- A decimal this small is below all floats.
  · by_contra! hcontra
    have hlt : (n : ℚ) * 10 ^ e < 10 ^ (count + e) := by
      rw [zpow_add₀ (by norm_num), zpow_natCast]
      exact mul_lt_mul_of_pos_right (by exact_mod_cast hcount) hten
    have hexponent : (10 : ℚ) ^ (count + e) ≤ 2 ^ (3 * (count + e)) := ten_zpow_le_two (by omega)
    have hsmall : (2 : ℚ) ^ (3 * (count + e)) ≤ 2 ^ (-1075 : ℤ) :=
      zpow_le_zpow_right₀ one_le_two (by omega)
    linarith

/-- The number nearest to a decimal, by the exact product or quotient. -/
theorem model_ofScientific_eq (hb : b.IsCanonical) {n : ℕ} {e : ℤ} (hv : b.Holds (n * 10 ^ e)) :
    UnpackedFloat.ofScientific .binary64 n e = .finite .positive b.mantissa b.exponent hb.pos := by
  obtain ⟨hn, hhigh, hlow⟩ := exponent_range hb hv
  have hcount : n < 10 ^ (n.log2 + 1) :=
    Nat.lt_log2_self.trans_le (Nat.pow_le_pow_left (by norm_num) _)
  have hleast := hlow _ hcount
  push_cast at hleast
  have hbits : ((2 : ℤ) ^ Format.exponentBits .binary64) = 2048 := rfl
  rw [UnpackedFloat.ofScientific, dif_neg hn.ne', if_neg (by omega), if_neg (by omega)]
  rw [zpow_eq_div (by norm_num)] at hv
  -- A power of ten is in the numerator or in the denominator, by the sign of the exponent.
  split
  · next hnonneg =>
    have hpower : 0 < 10 ^ e.toNat := Nat.pow_pos (by norm_num)
    have hshift : n <<< 53 = n * 2 ^ 53 := Nat.shiftLeft_eq _ _
    have hfull : 2 ^ 52 ≤ n <<< 53 * 10 ^ e.toNat := by
      rw [hshift]
      calc 2 ^ 52 ≤ 1 * 2 ^ 53 * 1 := by norm_num
        _ ≤ n * 2 ^ 53 * 10 ^ e.toNat := by gcongr <;> omega
    refine mul_eq hb _ _ hfull ?_
    rw [show (-e).toNat = 0 by omega, pow_zero, div_one] at hv
    convert hv using 1
    show ((n <<< 53 : ℕ) : ℚ) * 2 ^ (-53 : ℤ) * ((10 ^ e.toNat : ℕ) * 2 ^ (0 : ℤ)) = _
    rw [hshift, zpow_zero, zpow_neg]
    push_cast
    field_simp
  · next hnegative =>
    refine div_eq hb _ _ ?_
    rw [show e.toNat = 0 by omega, pow_zero, mul_one_div] at hv
    simpa using hv

/-! ### Small decimals -/

/-- The magnitude of an integer of at most 53 digits. -/
def ofInteger (n : ℕ) : Binary where
  mantissa := n * 2 ^ (52 - n.log2)
  exponent := -(52 - n.log2 : ℕ)
  narrowBelow := n * 2 ^ (52 - n.log2) = 2 ^ 52

/-- An integer has a full mantissa. -/
theorem ofInteger_bounds {n : ℕ} (hn : 0 < n) (hlt : n < 2 ^ 53) :
    2 ^ 52 ≤ (ofInteger n).mantissa ∧ (ofInteger n).mantissa < 2 ^ 53 := by
  have hlog : n.log2 < 53 := (Nat.log2_lt hn.ne').mpr hlt
  have hle : 2 ^ n.log2 ≤ n := Nat.log2_self_le hn.ne'
  have hless : n < 2 ^ (n.log2 + 1) := Nat.lt_log2_self
  constructor
  · calc 2 ^ 52 = 2 ^ n.log2 * 2 ^ (52 - n.log2) := by rw [← pow_add]; congr 1; omega
      _ ≤ n * 2 ^ (52 - n.log2) := Nat.mul_le_mul_right _ hle
  · calc n * 2 ^ (52 - n.log2) < 2 ^ (n.log2 + 1) * 2 ^ (52 - n.log2) :=
          Nat.mul_lt_mul_of_pos_right hless (by positivity)
      _ = 2 ^ 53 := by rw [← pow_add]; congr 1; omega

/-- An integer is canonical. -/
theorem isCanonical_ofInteger {n : ℕ} (hn : 0 < n) (hlt : n < 2 ^ 53) :
    (ofInteger n).IsCanonical := by
  obtain ⟨hlow, hhigh⟩ := ofInteger_bounds hn hlt
  refine ⟨by omega, hhigh, ?_, ?_, .inl hlow, ?_⟩
  · show (-1074 : ℤ) ≤ -(52 - n.log2 : ℕ)
    omega
  · show (-(52 - n.log2 : ℕ) : ℤ) ≤ 971
    omega
  · show decide _ = true ↔ _ ∧ (-1074 : ℤ) < -(52 - n.log2 : ℕ)
    rw [decide_eq_true_eq]
    exact ⟨fun h => ⟨h, by omega⟩, fun h => h.1⟩

/-- Its value is the integer itself. -/
theorem value_ofInteger (n : ℕ) : (ofInteger n).value = n := by
  show ((n * 2 ^ (52 - n.log2) : ℕ) : ℚ) * 2 ^ (-(52 - n.log2 : ℕ) : ℤ) = n
  rw [zpow_neg, zpow_natCast]
  push_cast
  field_simp

/-- An integer of at most 53 digits is a floating point number. -/
theorem toFloat_toUInt64 {n : ℕ} (hn : 0 < n) (hlt : n < 2 ^ 53) :
    n.toUInt64.toFloat = (ofInteger n).toFloat .positive := by
  have hwrap : n.toUInt64.toNat = n := by
    show n % 2 ^ 64 = n
    exact Nat.mod_eq_of_lt (by omega)
  have hb := isCanonical_ofInteger hn hlt
  obtain ⟨hfull, -⟩ := ofInteger_bounds hn hlt
  have hcompare : compare (n : ℤ) 0 = .gt := by
    rw [Int.compare_eq_gt]
    omega
  have hlog : n.log2 < 53 := (Nat.log2_lt hn.ne').mpr hlt
  have hshift : (0 - Format.targetExponent .binary64 (totalExponent n 0)).toNat = 52 - n.log2 := by
    rw [targetExponent_binary64, totalExponent]
    omega
  have hround : UnpackedFloat.ofUInt64 .binary64 n.toUInt64 =
      .finite .positive (ofInteger n).mantissa (ofInteger n).exponent hb.pos := by
    -- The integer has fewer than 53 digits, so nothing is rounded.
    rw [UnpackedFloat.ofUInt64, UnpackedFloat.ofNat, UnpackedFloat.ofInt, hwrap,
      UnpackedFloat.normalize, hcompare]
    dsimp only
    rw [Int.toNat_natCast, UnpackedFloat.round, UnpackedFloat.decreaseExponent]
    dsimp only
    rw [hshift, Nat.shiftLeft_eq, zero_sub]
    exact roundWithAccuracy_eq hb (represents_exact _) (ofInteger n).holds_value
      (le_targetExponent hfull _) _
  show Float.ofModel (.pack (UnpackedFloat.ofUInt64 .binary64 n.toUInt64)) = _
  rw [hround, Binary.toFloat, Binary.unpacked_of_pos]

/-- The powers of ten in the table are exact. -/
theorem exactlyRepresentablePowersOfTen_eq (k : Fin 23) :
    let x := Float.exactlyRepresentablePowersOfTen[k]
    let p := Binary.ofFloat x
    x.isFinite = true ∧ isNegative x = false ∧ 2 ^ 52 ≤ p.mantissa ∧
      p.mantissa * 2 ^ p.exponent.toNat = 10 ^ k.val * 2 ^ (-p.exponent).toNat := by
  revert k
  decide +kernel

/-- A product is the number that holds the product of the values. -/
theorem mul_toFloat (ha : a.IsCanonical) (hc : c.IsCanonical) (hb : b.IsCanonical)
    (hfull : 2 ^ 52 ≤ a.mantissa * c.mantissa) (hv : b.Holds (a.value * c.value)) :
    a.toFloat .positive * c.toFloat .positive = b.toFloat .positive := by
  show Float.ofModel (.pack (UnpackedFloat.mul .binary64 (a.toFloat .positive).toModel.unpack
    (c.toFloat .positive).toModel.unpack)) = _
  rw [Binary.IsFinite.unpack_toFloat (.inr ha), Binary.IsFinite.unpack_toFloat (.inr hc),
    Binary.unpacked_of_pos ha.pos, Binary.unpacked_of_pos hc.pos, mul_eq hb _ _ hfull hv,
    Binary.toFloat, Binary.unpacked_of_pos]

/-- A quotient is the number that holds their quotient. -/
theorem div_toFloat (ha : a.IsCanonical) (hc : c.IsCanonical) (hb : b.IsCanonical)
    (hv : b.Holds (a.value / c.value)) :
    a.toFloat .positive / c.toFloat .positive = b.toFloat .positive := by
  show Float.ofModel (.pack (UnpackedFloat.div .binary64 (a.toFloat .positive).toModel.unpack
    (c.toFloat .positive).toModel.unpack)) = _
  rw [Binary.IsFinite.unpack_toFloat (.inr ha), Binary.IsFinite.unpack_toFloat (.inr hc),
    Binary.unpacked_of_pos ha.pos, Binary.unpacked_of_pos hc.pos, div_eq hb _ _ hv,
    Binary.toFloat, Binary.unpacked_of_pos]

/-- The powers of ten in the table are exact. -/
theorem powerOfTen_eq {k : ℕ} (hk : k < Float.exactlyRepresentablePowersOfTen.size) :
    ∃ p : Binary, p.IsCanonical ∧ p.value = 10 ^ k ∧ 2 ^ 52 ≤ p.mantissa ∧
      Float.exactlyRepresentablePowersOfTen[k] = p.toFloat .positive := by
  obtain ⟨hfinite, hpositive, hfull, hvalue⟩ := exactlyRepresentablePowersOfTen_eq ⟨k, hk⟩
  obtain ⟨hb, hfloat⟩ := toFloat_ofFloat hfinite
  refine ⟨Binary.ofFloat Float.exactlyRepresentablePowersOfTen[k], hb.resolve_left ?_, ?_, hfull,
    ?_⟩
  · exact (Nat.lt_of_lt_of_le (by norm_num) hfull).ne'
  · rw [Binary.value, zpow_eq_div two_ne_zero, mul_div_assoc', div_eq_iff (by positivity)]
    exact_mod_cast hvalue
  · rw [signOf, if_neg (by rw [hpositive]; exact Bool.false_ne_true)] at hfloat
    exact hfloat.symm

/-- The short way: a product or a quotient of two exact numbers. -/
theorem ofScientific_small (hb : b.IsCanonical) {n : ℕ} {e : ℤ} (hv : b.Holds (n * 10 ^ e))
    (hsmall : n < 2 ^ 53 ∧ e.natAbs ≤ 22) :
    Float.ofScientific n (e < 0) e.natAbs = b.toFloat .positive := by
  obtain ⟨hn, -, -⟩ := exponent_range hb hv
  have hk : e.natAbs < Float.exactlyRepresentablePowersOfTen.size := Nat.lt_succ_of_le hsmall.2
  have hfast : Float.ofScientific n (e < 0) e.natAbs =
      if e < 0 then n.toUInt64.toFloat / Float.exactlyRepresentablePowersOfTen[e.natAbs]
      else n.toUInt64.toFloat * Float.exactlyRepresentablePowersOfTen[e.natAbs] := by
    rw [Float.ofScientific, dif_pos hsmall]
    simp only [decide_eq_true_eq]
  obtain ⟨p, hp, hvalue, hfull, htable⟩ := powerOfTen_eq hk
  have hc := isCanonical_ofInteger hn hsmall.1
  rw [hfast, htable, toFloat_toUInt64 hn hsmall.1]
  rw [zpow_eq_div (by norm_num)] at hv
  -- Powers of ten up to 22 are exact, so one multiplication or division rounds only once.
  split
  · next hnegative =>
    rw [show e.toNat = 0 by omega, show (-e).toNat = e.natAbs by omega, pow_zero,
      mul_one_div] at hv
    apply div_toFloat hc hp hb
    rwa [value_ofInteger, hvalue]
  · next hnonneg =>
    rw [show e.toNat = e.natAbs by omega, show (-e).toNat = 0 by omega, pow_zero, div_one] at hv
    apply mul_toFloat hc hp hb
    · exact hfull.trans (Nat.le_mul_of_pos_left _ hc.pos)
    · rwa [value_ofInteger, hvalue]

/-! ### Decimals -/

/-- The number nearest to a decimal. -/
theorem ofScientific_eq (hb : b.IsCanonical) {n : ℕ} {e : ℤ} (hv : b.Holds (n * 10 ^ e)) :
    Float.ofScientific n (e < 0) e.natAbs = b.toFloat .positive := by
  by_cases hsmall : n < 2 ^ 53 ∧ e.natAbs ≤ 22
  · exact ofScientific_small hb hv hsmall
  · have hexponent : (if decide (e < 0) = true then Int.negOfNat e.natAbs
        else Int.ofNat e.natAbs) = e := by
      simp only [decide_eq_true_eq, Int.negOfNat_eq, Int.ofNat_eq_natCast]
      split <;> omega
    rw [Float.ofScientific, dif_neg hsmall]
    dsimp only
    rw [hexponent]
    show Float.ofModel (.pack (UnpackedFloat.ofScientific .binary64 n e)) = _
    rw [model_ofScientific_eq hb hv, Binary.toFloat, Binary.unpacked_of_pos]

/-- **Reading a decimal.** A decimal is read as the floating point number that it is nearest to. -/
theorem nearest_eq (hb : b.IsCanonical) {n count : ℕ} {e : ℤ} (hcount : n < 10 ^ count)
    (hv : b.Holds (n * 10 ^ e)) : nearest n count e = b.toFloat .positive := by
  obtain ⟨hn, hhigh, hlow⟩ := exponent_range hb hv
  have hleast := hlow count hcount
  rw [nearest, if_neg (by simpa using hn.ne'), if_neg (by omega), if_neg (by omega)]
  exact ofScientific_eq hb hv

end Questionnaire.Number
