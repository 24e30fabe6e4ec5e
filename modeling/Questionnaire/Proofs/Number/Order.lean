import Questionnaire.Proofs.Number.Packed

namespace Questionnaire.Number

open Float.Model (UnpackedFloat)
open Float.Model.UnpackedFloat (Sign)

/-!
# The order of numbers

Floating point numbers are compared by their signs, their exponents and their mantissas, in this
order.  For finite numbers that is the order of the rational numbers that they are.

* `rational`, `Binary.IsFinite.rational_toFloat` — a finite number as a rational number.
* `compare_value` — exponents come first, since mantissas have all their digits.
* `le_iff`, `lt_iff` — finite numbers are compared as rational numbers.
-/

/-! ### Values -/

/-- A magnitude with a sign. -/
def withSign : Sign → ℚ → ℚ
  | .positive, v => v
  | .negative, v => -v

/-- Zero is the same with either sign. -/
@[simp] theorem withSign_zero (s : Sign) : withSign s 0 = 0 := by cases s <;> simp [withSign]

/-- A finite number as a rational number. -/
def rational (x : Float) : ℚ := withSign (signOf x) (Binary.ofFloat x).value

variable {a b : Binary}

/-- A canonical magnitude is greater than zero. -/
theorem Binary.IsCanonical.value_pos (ha : a.IsCanonical) : 0 < a.value := by
  have hmantissa : (0 : ℚ) < a.mantissa := by exact_mod_cast ha.pos
  exact mul_pos hmantissa (by positivity)

/-- A magnitude without digits is zero. -/
theorem Binary.value_of_zero (h : a.mantissa = 0) : a.value = 0 := by
  rw [Binary.value, h, Nat.cast_zero, zero_mul]

/-- A magnitude without digits is unpacked to a zero. -/
theorem Binary.unpacked_of_zero (h : a.mantissa = 0) (s : Sign) : a.unpacked s = .zero s :=
  dif_neg h.not_gt

/-- What has been unpacked tells the number. -/
theorem withSign_unpacked {s t : Sign} (h : a.unpacked s = b.unpacked t) :
    withSign s a.value = withSign t b.value := by
  rcases Nat.eq_zero_or_pos a.mantissa with ha | ha <;>
    rcases Nat.eq_zero_or_pos b.mantissa with hb | hb
  · rw [Binary.value_of_zero ha, Binary.value_of_zero hb, withSign_zero, withSign_zero]
  · rw [Binary.unpacked_of_zero ha, Binary.unpacked_of_pos hb] at h
    cases h
  · rw [Binary.unpacked_of_pos ha, Binary.unpacked_of_zero hb] at h
    cases h
  · rw [Binary.unpacked_of_pos ha, Binary.unpacked_of_pos hb, UnpackedFloat.finite.injEq] at h
    obtain ⟨rfl, hmantissa, hexponent⟩ := h
    rw [Binary.value, Binary.value, hmantissa, hexponent]

/-- The number of a finite magnitude is finite. -/
theorem Binary.IsFinite.isFinite_toFloat (hb : b.IsFinite) (s : Sign) :
    (b.toFloat s).isFinite = true := by
  show (b.toFloat s).toModel.unpack.isFinite = true
  rw [hb.unpack_toFloat, Binary.unpacked]
  split <;> rfl

/-- The number with a magnitude and a sign is the magnitude with the sign. -/
theorem Binary.IsFinite.rational_toFloat (hb : b.IsFinite) (s : Sign) :
    rational (b.toFloat s) = withSign s b.value := by
  obtain ⟨ha, hself⟩ := toFloat_ofFloat (hb.isFinite_toFloat s)
  refine withSign_unpacked ?_
  rw [← ha.unpack_toFloat, hself, hb.unpack_toFloat]

/-- Negating a finite number negates its rational number. -/
theorem rational_neg {x : Float} (h : x.isFinite = true) :
    (-x).isFinite = true ∧ rational (-x) = -rational x := by
  obtain ⟨hb, hx⟩ := toFloat_ofFloat h
  have hneg := hb.neg_toFloat (signOf x)
  rw [hx] at hneg
  rw [hneg, hb.rational_toFloat, rational]
  refine ⟨hb.isFinite_toFloat _, ?_⟩
  cases signOf x
  · exact (neg_neg _).symm
  · rfl

/-- Zero is the rational number zero. -/
theorem rational_zero : rational 0 = 0 := by
  have hzero : Binary.IsFinite ⟨0, 0, false⟩ := .inl rfl
  have hself : (0 : Float) = Binary.toFloat ⟨0, 0, false⟩ .positive := by
    rw [Binary.toFloat, Binary.unpacked_of_zero rfl]
    rfl
  rw [hself, hzero.rational_toFloat, Binary.value_of_zero rfl, withSign_zero]

/-- A number that is not negative is its magnitude. -/
theorem value_of_nonneg {x : Float} (h : 0 ≤ rational x) :
    (Binary.ofFloat x).value = rational x := by
  have hvalue : 0 ≤ (Binary.ofFloat x).value := by
    rw [Binary.value]
    positivity
  rw [rational] at h ⊢
  generalize signOf x = s at h ⊢
  cases s
  · rw [withSign] at h ⊢
    linarith
  · rfl

/-- A finite number is a number. -/
theorem not_isNaN {x : Float} (h : x.isFinite = true) : x.isNaN = false := by
  obtain ⟨hb, hx⟩ := toFloat_ofFloat h
  have hunpacked := hb.unpack_toFloat (signOf x)
  rw [hx] at hunpacked
  show x.toModel.unpack.isNaN = false
  rw [hunpacked, Binary.unpacked]
  split <;> rfl

/-! ### Magnitudes -/

/-- The number with the greater exponent is greater: it has all its digits. -/
theorem Binary.IsCanonical.value_lt (ha : a.IsCanonical) (hb : b.IsCanonical)
    (h : a.exponent < b.exponent) : a.value < b.value := by
  have hpos : (0 : ℚ) < 2 ^ a.exponent := by positivity
  have hlt : (a.mantissa : ℚ) < 2 ^ (53 : ℤ) := by exact_mod_cast ha.lt
  have hleast := ha.least
  have hfull : (2 : ℚ) ^ (52 : ℤ) ≤ b.mantissa := by
    exact_mod_cast hb.full.resolve_right (by omega)
  calc a.value < 2 ^ (53 : ℤ) * 2 ^ a.exponent := mul_lt_mul_of_pos_right hlt hpos
    _ = 2 ^ (53 + a.exponent) := (zpow_add₀ two_ne_zero _ _).symm
    _ ≤ 2 ^ (52 : ℤ) * 2 ^ b.exponent := two_zpow_le (by omega)
    _ ≤ b.value := mul_le_mul_of_nonneg_right hfull (by positivity)

/-- Magnitudes are compared by their exponents first. -/
theorem compare_value (ha : a.IsCanonical) (hb : b.IsCanonical) :
    (compare a.exponent b.exponent).then (compare a.mantissa b.mantissa)
      = compare a.value b.value := by
  rcases lt_trichotomy a.exponent b.exponent with hlt | heq | hgt
  · rw [compare_lt_iff_lt.mpr hlt, compare_lt_iff_lt.mpr (ha.value_lt hb hlt)]
    rfl
  · -- In units of the same digit the mantissas decide.
    have hpos : (0 : ℚ) < 2 ^ b.exponent := by positivity
    rw [compare_eq_iff_eq.mpr heq, Ordering.then, Binary.value, Binary.value, heq]
    rcases lt_trichotomy a.mantissa b.mantissa with hlt | heq | hgt
    · have hvalue := mul_lt_mul_of_pos_right (Nat.cast_lt (α := ℚ).mpr hlt) hpos
      rw [compare_lt_iff_lt.mpr hlt, compare_lt_iff_lt.mpr hvalue]
    · rw [compare_eq_iff_eq.mpr heq, heq, compare_eq_iff_eq.mpr rfl]
    · have hvalue := mul_lt_mul_of_pos_right (Nat.cast_lt (α := ℚ).mpr hgt) hpos
      rw [compare_gt_iff_gt.mpr hgt, compare_gt_iff_gt.mpr hvalue]
  · rw [compare_gt_iff_gt.mpr hgt, compare_gt_iff_gt.mpr (hb.value_lt ha hgt)]
    rfl

/-- Negating both sides turns the order around. -/
theorem compare_neg (v w : ℚ) : compare (-v) (-w) = (compare v w).swap := by
  rcases lt_trichotomy v w with hlt | rfl | hgt
  · rw [compare_lt_iff_lt.mpr hlt, compare_gt_iff_gt.mpr (neg_lt_neg hlt)]
    rfl
  · rw [compare_eq_iff_eq.mpr rfl, compare_eq_iff_eq.mpr rfl]
    rfl
  · rw [compare_gt_iff_gt.mpr hgt, compare_lt_iff_lt.mpr (neg_lt_neg hgt)]
    rfl

/-! ### Numbers -/

/-- Signed magnitudes are compared as rational numbers. -/
theorem compare_unpacked (ha : a.IsFinite) (hb : b.IsFinite) (s t : Sign) :
    (a.unpacked s).compare (b.unpacked t)
      = some (compare (withSign s a.value) (withSign t b.value)) := by
  -- Zero has no sign in the order, so it is set apart on both sides.
  rcases ha with ha | ha <;> rcases hb with hb | hb
  · rw [Binary.unpacked_of_zero ha, Binary.unpacked_of_zero hb, Binary.value_of_zero ha,
      Binary.value_of_zero hb, withSign_zero, withSign_zero, compare_eq_iff_eq.mpr rfl]
    rfl
  · have hpos := hb.value_pos
    rw [Binary.unpacked_of_zero ha, Binary.unpacked_of_pos hb.pos, Binary.value_of_zero ha,
      withSign_zero]
    cases t
    · rw [withSign, compare_gt_iff_gt.mpr (neg_lt_zero.mpr hpos)]
      rfl
    · rw [withSign, compare_lt_iff_lt.mpr hpos]
      rfl
  · have hpos := ha.value_pos
    rw [Binary.unpacked_of_pos ha.pos, Binary.unpacked_of_zero hb, Binary.value_of_zero hb,
      withSign_zero]
    cases s
    · rw [withSign, compare_lt_iff_lt.mpr (neg_lt_zero.mpr hpos)]
      rfl
    · rw [withSign, compare_gt_iff_gt.mpr hpos]
      rfl
  · have hposa := ha.value_pos
    have hposb := hb.value_pos
    have hvalue := compare_value ha hb
    rw [Binary.unpacked_of_pos ha.pos, Binary.unpacked_of_pos hb.pos]
    cases s <;> cases t
    · rw [withSign, withSign, compare_neg, ← hvalue]
      rfl
    · rw [withSign, withSign, compare_lt_iff_lt.mpr (by linarith)]
      rfl
    · rw [withSign, withSign, compare_gt_iff_gt.mpr (by linarith)]
      rfl
    · rw [withSign, withSign, ← hvalue]
      rfl

variable {x y : Float}

/-- Unpacked numbers are compared as rational ones. -/
theorem compare_toModel (hx : x.isFinite = true) (hy : y.isFinite = true) :
    x.toModel.unpack.compare y.toModel.unpack = some (compare (rational x) (rational y)) := by
  obtain ⟨ha, hxa⟩ := toFloat_ofFloat hx
  obtain ⟨hb, hyb⟩ := toFloat_ofFloat hy
  rw [rational, rational, ← compare_unpacked ha hb, ← ha.unpack_toFloat, ← hb.unpack_toFloat, hxa,
    hyb]

/-- Finite numbers are compared as rational numbers. -/
theorem le_iff (hx : x.isFinite = true) (hy : y.isFinite = true) :
    x ≤ y ↔ rational x ≤ rational y := by
  have hle : x ≤ y ↔ (x.toModel.unpack.compare y.toModel.unpack).any (·.isLE) = true :=
    decide_eq_true_iff
  rw [hle, compare_toModel hx hy]
  exact Std.LawfulBCmp.isLE_iff_le

/-- Finite numbers are less than others where their rational numbers are. -/
theorem lt_iff (hx : x.isFinite = true) (hy : y.isFinite = true) :
    x < y ↔ rational x < rational y := by
  have hlt : x < y ↔ (x.toModel.unpack.compare y.toModel.unpack == some .lt) = true :=
    decide_eq_true_iff
  rw [hlt, compare_toModel hx hy, beq_iff_eq, Option.some.injEq]
  exact compare_lt_iff_lt

end Questionnaire.Number
