import Questionnaire.Proofs.Number.Order
import Questionnaire.Proofs.Number.Written

namespace Questionnaire.Number

/-!
# Integers as floating point numbers

An integer keeps its first 53 binary digits when it becomes a floating point number.  Up to there
nothing changes, and the order of integers is never turned around.

* `IsNearest`, `isNearest_roundedQuotient` — a quotient is rounded to the nearest integer.
* `roundsTo_units` — so a number is in units of a decimal place.
* `rounded`, `roundedInt`, `roundedInt_mono` — an integer with its first 53 binary digits.
* `rational_ofInt` — that is what an integer widens to.
* `readFloat_signedDecimal` — and what its decimal digits are read as.
-/

/-! ### Rounded quotients -/

variable {p q m n den : ℕ}

/-- An integer is nearest to a quotient, and even if it lies as far from it as the next one. -/
structure IsNearest (q num den : ℕ) : Prop where
  low : 2 * q * den ≤ 2 * num + den
  high : 2 * num ≤ 2 * q * den + den
  even : 2 * q * den = 2 * num + den ∨ 2 * num = 2 * q * den + den → q % 2 = 0

/-- Dividing and rounding the remainder gives the nearest integer. -/
theorem isNearest_roundedQuotient (num : ℕ) (hden : 0 < den) :
    IsNearest (roundedQuotient num den) num den := by
  have hsplit : den * (num / den) + num % den = num := Nat.div_add_mod num den
  have hlt : num % den < den := Nat.mod_lt num hden
  have hdown : 2 * (num / den) * den = 2 * (den * (num / den)) := by ring
  have hup : 2 * (num / den + 1) * den = 2 * (den * (num / den)) + 2 * den := by ring
  unfold roundedQuotient
  dsimp only
  -- The remainder is compared with one half of the denominator, and a tie goes to the even
  -- quotient.
  cases hcompare : compare (2 * (num % den)) den with
  | lt =>
    have hhalf := Nat.compare_eq_lt.mp hcompare
    dsimp only
    constructor <;> omega
  | eq =>
    have hhalf := Nat.compare_eq_eq.mp hcompare
    dsimp only
    split
    · next heven =>
      rw [beq_iff_eq] at heven
      constructor <;> omega
    · next hodd =>
      rw [beq_iff_eq] at hodd
      constructor <;> omega
  | gt =>
    have hhalf := Nat.compare_eq_gt.mp hcompare
    dsimp only
    constructor <;> omega

/-- A greater quotient has no smaller nearest integer. -/
theorem IsNearest.mono (hp : IsNearest p m den) (hq : IsNearest q n den)
    (hden : 0 < den) (h : m ≤ n) : p ≤ q := by
  by_contra! hlt
  obtain ⟨k, rfl⟩ := Nat.exists_eq_add_of_le (Nat.succ_le_of_lt hlt)
  -- Both quotients would lie in the middle between neighbours, of which only one is even.
  have hsum : 2 * (q.succ + k) * den = 2 * q * den + 2 * den + 2 * (k * den) := by
    rw [Nat.succ_eq_add_one]
    ring
  have hlow := hp.low
  have hhigh := hq.high
  have hzero : k * den = 0 := by omega
  have hk : k = 0 := by
    rcases Nat.mul_eq_zero.mp hzero with hk | hk
    · exact hk
    · omega
  have hpeven := hp.even (.inl (by omega))
  have hqeven := hq.even (.inr (by omega))
  omega

/-- There is one nearest integer only, since of two that are as near the even one is taken. -/
theorem IsNearest.unique (hp : IsNearest p n den) (hq : IsNearest q n den)
    (hden : 0 < den) : p = q :=
  le_antisymm (hp.mono hq hden le_rfl) (hq.mono hp hden le_rfl)

/-- A rational number lies between the midpoints to the neighbours of an integer, or in the middle
    if the integer is even. -/
def RoundsTo (y : ℚ) (q : ℕ) : Prop :=
  ((q : ℚ) - 1 / 2 < y ∨ q % 2 = 0 ∧ y = q - 1 / 2) ∧ (y < q + 1 / 2 ∨ q % 2 = 0 ∧ y = q + 1 / 2)

/-- A number is rounded to an integer that lies at most a half away. -/
theorem RoundsTo.near {y : ℚ} (h : RoundsTo y q) : |(q : ℚ) - y| ≤ 1 / 2 := by
  rw [abs_le]
  constructor
  · rcases h.2 with h | ⟨-, h⟩ <;> linarith
  · rcases h.1 with h | ⟨-, h⟩ <;> linarith

/-- There is one such integer only: in the middle between two of them one is odd. -/
theorem RoundsTo.unique {y : ℚ} (hp : RoundsTo y p) (hq : RoundsTo y q) : p = q := by
  -- Two different integers can only both be nearest halfway between them, and one of them is odd.
  wlog hlt : p < q generalizing p q
  · rcases (not_lt.mp hlt).eq_or_lt with heq | hgt
    · exact heq.symm
    · exact (this hq hp hgt).symm
  exfalso
  have hnext : (p : ℚ) + 1 ≤ q := by exact_mod_cast hlt
  obtain ⟨hpeven, hphigh⟩ : p % 2 = 0 ∧ y = p + 1 / 2 := by
    refine hp.2.resolve_left fun hhigh => ?_
    rcases hq.1 with hlow | ⟨-, hlow⟩ <;> linarith
  obtain ⟨hqeven, hqlow⟩ : q % 2 = 0 ∧ y = q - 1 / 2 := by
    refine hq.1.resolve_left fun hlow => ?_
    linarith
  have hq : (q : ℚ) = (p + 1 : ℕ) := by
    push_cast
    linarith
  have hsucc : q = p + 1 := by exact_mod_cast hq
  omega

/-- The nearest integer of a quotient is what it rounds to. -/
theorem IsNearest.roundsTo (h : IsNearest q n den) (hden : 0 < den) :
    RoundsTo ((n : ℚ) / den) q := by
  have hpos : (0 : ℚ) < den := by exact_mod_cast hden
  have hlow : 2 * q * den ≤ (2 * n + den : ℚ) := by exact_mod_cast h.low
  have hhigh : 2 * n ≤ (2 * q * den + den : ℚ) := by exact_mod_cast h.high
  rw [RoundsTo, lt_div_iff₀ hpos, div_lt_iff₀ hpos, div_eq_iff hpos.ne', div_eq_iff hpos.ne']
  constructor
  · rcases hlow.lt_or_eq with hlt | heq
    · left
      linarith
    · exact .inr ⟨h.even (.inl (by exact_mod_cast heq)), by linarith⟩
  · rcases hhigh.lt_or_eq with hlt | heq
    · left
      linarith
    · exact .inr ⟨h.even (.inr (by exact_mod_cast heq)), by linarith⟩

/-- A number in units of a decimal place is what it rounds to there. -/
theorem roundsTo_units (places : ℕ) (b : Binary) :
    RoundsTo (b.value * 10 ^ places) (units places b) := by
  have hpower : 0 < twoTo (-b.exponent).toNat := Nat.pow_pos two_pos
  have hvalue : ((b.mantissa * twoTo b.exponent.toNat * tenTo places : ℕ) : ℚ)
      / (twoTo (-b.exponent).toNat : ℕ) = b.value * 10 ^ places := by
    rw [Binary.value, zpow_eq_div two_ne_zero]
    simp only [Nat.pow_eq]
    push_cast
    ring
  rw [← hvalue]
  exact (isNearest_roundedQuotient
    (b.mantissa * twoTo b.exponent.toNat * tenTo places) hpower).roundsTo hpower

/-- So it is nearest to it. -/
theorem units_near (places : ℕ) (b : Binary) :
    |(units places b : ℚ) - b.value * 10 ^ places| ≤ 1 / 2 := (roundsTo_units places b).near

/-! ### Rounded integers -/

/-- How many binary digits of a natural number come behind the first 53. -/
def excess (n : ℕ) : ℕ := n.log2 - 52

/-- A natural number with its first 53 binary digits, rounded to the nearest, a half to the even
    neighbour. -/
def rounded (n : ℕ) : ℕ := roundedQuotient n (twoTo (excess n)) * twoTo (excess n)

/-- The first 53 digits of a number are those of the number nearest to it in their unit. -/
theorem isNearest_rounded (n : ℕ) :
    IsNearest (roundedQuotient n (twoTo (excess n))) n (twoTo (excess n)) :=
  isNearest_roundedQuotient n (Nat.pow_pos two_pos)

/-- A number below the 53rd power of two has no digits behind them. -/
theorem excess_of_lt (h : n < 2 ^ 53) : excess n = 0 := by
  by_cases hzero : n = 0
  · rw [hzero]
    rfl
  · have hlog := (Nat.log2_lt hzero).mpr h
    rw [excess]
    omega

/-- An integer of at most 53 digits stays as it is, and so does the next one. -/
theorem rounded_eq_self (h : n ≤ 2 ^ 53) : rounded n = n := by
  rcases h.lt_or_eq with hlt | rfl
  · have hnearest := isNearest_rounded n
    rw [excess_of_lt hlt] at hnearest
    have hself : IsNearest n n (twoTo 0) := by
      constructor <;> simp only [Nat.pow_eq, pow_zero] <;> omega
    rw [rounded, excess_of_lt hlt, hnearest.unique hself (by decide)]
    exact Nat.mul_one n
  · decide +kernel

/-- The first digits of a greater number are a number of 53 digits, or the next power of two. -/
theorem roundedQuotient_bounds (h : 2 ^ 53 ≤ n) :
    2 ^ 52 ≤ roundedQuotient n (twoTo (excess n))
      ∧ roundedQuotient n (twoTo (excess n)) ≤ 2 ^ 53
      ∧ 2 ^ 52 * twoTo (excess n) ≤ n ∧ n < 2 ^ 53 * twoTo (excess n) := by
  have hne : n ≠ 0 := by omega
  have hlog : 53 ≤ n.log2 := (Nat.le_log2 hne).mpr h
  have hpos : 0 < twoTo (excess n) := Nat.pow_pos two_pos
  -- The excess leaves exactly 53 binary digits.
  have hlow : 2 ^ 52 * twoTo (excess n) ≤ n := by
    calc 2 ^ 52 * 2 ^ excess n = 2 ^ n.log2 := by rw [← pow_add, excess]; congr 1; omega
      _ ≤ n := Nat.log2_self_le hne
  have hhigh : n < 2 ^ 53 * twoTo (excess n) := by
    calc n < 2 ^ (n.log2 + 1) := Nat.lt_log2_self
      _ = 2 ^ 53 * 2 ^ excess n := by rw [← pow_add, excess]; congr 1; omega
  have hnearest := isNearest_rounded n
  have hleast : IsNearest (2 ^ 52) (2 ^ 52 * twoTo (excess n)) (twoTo (excess n)) := by
    constructor <;> omega
  have hgreatest : IsNearest (2 ^ 53) (2 ^ 53 * twoTo (excess n)) (twoTo (excess n)) := by
    constructor <;> omega
  exact ⟨hleast.mono hnearest hpos hlow, hnearest.mono hgreatest hpos hhigh.le, hlow, hhigh⟩

/-- Rounding adds at most one unit to the largest mantissa. -/
theorem rounded_le (n : ℕ) : rounded n ≤ 2 ^ 53 * twoTo (excess n) := by
  by_cases hsmall : n < 2 ^ 53
  · rw [rounded_eq_self hsmall.le, excess_of_lt hsmall]
    exact hsmall.le
  · exact Nat.mul_le_mul_right _ (roundedQuotient_bounds (not_lt.mp hsmall)).2.1

/-- A larger number has as many digits or more. -/
theorem excess_mono (h : m ≤ n) : excess m ≤ excess n := by
  have hlog : m.log2 ≤ n.log2 := by
    rw [Nat.log2_eq_log_two, Nat.log2_eq_log_two]
    exact Nat.log_mono_right h
  exact Nat.sub_le_sub_right hlog 52

/-- Rounding never turns the order around. -/
theorem rounded_mono (h : m ≤ n) : rounded m ≤ rounded n := by
  have hmn := excess_mono h
  rcases hmn.eq_or_lt with hsame | hlt
  · have hm := isNearest_rounded m
    rw [hsame] at hm
    rw [rounded, rounded, hsame]
    exact Nat.mul_le_mul_right _ (hm.mono (isNearest_rounded n) (Nat.pow_pos two_pos) h)
  · -- The greater number has more digits, so a power of two lies between them.
    have hlarge : 2 ^ 53 ≤ n := by
      by_contra! hsmall
      rw [excess_of_lt hsmall] at hlt
      omega
    calc rounded m ≤ 2 ^ 53 * 2 ^ excess m := rounded_le m
      _ = 2 ^ 52 * 2 ^ (excess m + 1) := by rw [pow_succ]; ring
      _ ≤ 2 ^ 52 * 2 ^ excess n := Nat.mul_le_mul_left _ (Nat.pow_le_pow_right two_pos hlt)
      _ ≤ rounded n := Nat.mul_le_mul_right _ (roundedQuotient_bounds hlarge).1

/-! ### Floating point numbers -/

/-- Fifty-three digits are a mantissa, and the number of those that follow is an exponent. -/
theorem RoundsTo.exists_canonical {y : ℚ} (h : RoundsTo y q) (hfull : 2 ^ 52 ≤ y)
    (hlow : 2 ^ 52 ≤ q) (hlt : q < 2 ^ 53) {s : ℕ} (hs : s ≤ 970) :
    ∃ b : Binary, b.IsCanonical ∧ b.Holds (y * 2 ^ (s : ℤ)) ∧ b.value = q * 2 ^ (s : ℤ) := by
  refine ⟨⟨q, s, decide (q = 2 ^ 52)⟩, ⟨show 0 < q by omega, hlt, show (-1074 : ℤ) ≤ s by omega,
    show (s : ℤ) ≤ 971 by omega, .inl hlow, ?_⟩, (Binary.holds_mul _ y).mpr ⟨?_, h.2⟩, rfl⟩
  · rw [decide_eq_true_eq]
    exact ⟨fun heq => ⟨heq, show (-1074 : ℤ) < s by omega⟩, And.left⟩
  · rw [Binary.reach]
    split
    · next hnarrow =>
      obtain rfl : q = 2 ^ 52 := of_decide_eq_true hnarrow
      left
      push_cast
      linarith
    · exact h.1

/-- Where the digits have become a power of two, there is one digit more behind the mantissa. -/
theorem RoundsTo.exists_canonical_carry {y : ℚ} (h : RoundsTo y (2 ^ 53)) {s : ℕ} (hs : s ≤ 970) :
    ∃ b : Binary, b.IsCanonical ∧ b.Holds (y * 2 ^ (s : ℤ)) ∧ b.value = 2 ^ 53 * 2 ^ (s : ℤ) := by
  -- A carry has one digit too many, so it is halved and its exponent raised.
  have hhalf : y * 2 ^ (s : ℤ) = y / 2 * 2 ^ ((s : ℤ) + 1) := by
    rw [zpow_add_one₀ two_ne_zero]
    ring
  have hreach : Binary.reach ⟨2 ^ 52, s + 1, true⟩ = 1 / 4 := if_pos rfl
  have heven : 2 ^ 52 % 2 = 0 := by norm_num
  rw [hhalf]
  refine ⟨⟨2 ^ 52, s + 1, true⟩, ⟨by norm_num, by norm_num, show (-1074 : ℤ) ≤ s + 1 by omega,
    show (s + 1 : ℤ) ≤ 971 by omega, .inl le_rfl, ?_⟩,
    (Binary.holds_mul _ (y / 2)).mpr ⟨?_, .inl ?_⟩, ?_⟩
  · exact ⟨fun _ => ⟨rfl, show (-1074 : ℤ) < s + 1 by omega⟩, fun _ => rfl⟩
  · rw [hreach]
    rcases h.1 with hlt | ⟨-, heq⟩
    · left
      push_cast at hlt ⊢
      linarith
    · refine .inr ⟨heven, ?_⟩
      push_cast at heq ⊢
      linarith
  · have hnear := (abs_le.mp h.near).1
    push_cast at hnear ⊢
    linarith
  · rw [Binary.value, zpow_add_one₀ two_ne_zero]
    push_cast
    ring

/-- The first digits of a great integer are a mantissa, and the number of the others is an
    exponent. -/
theorem exists_canonical_of_le (h : 2 ^ 53 ≤ n) (hle : n ≤ 2 ^ 64) :
    ∃ b : Binary, b.IsCanonical ∧ b.Holds n ∧ b.value = rounded n := by
  have hlog : n.log2 < 65 := (Nat.log2_lt (by omega)).mpr (by omega)
  have hpower : 0 < twoTo (excess n) := Nat.pow_pos two_pos
  have hpos : (0 : ℚ) < (twoTo (excess n) : ℕ) := by exact_mod_cast hpower
  have hexcess : excess n ≤ 970 := by
    rw [excess]
    omega
  obtain ⟨hlow, hhigh, hleast, -⟩ := roundedQuotient_bounds h
  have hrounds := (isNearest_rounded n).roundsTo hpower
  have hfull : (2 : ℚ) ^ 52 ≤ n / (twoTo (excess n) : ℕ) := by
    rw [le_div_iff₀ hpos]
    exact_mod_cast hleast
  have hzpow : ((twoTo (excess n) : ℕ) : ℚ) = 2 ^ (excess n : ℤ) := by
    rw [zpow_natCast]
    exact Nat.cast_pow 2 _
  have hn : (n : ℚ) = n / (twoTo (excess n) : ℕ) * 2 ^ (excess n : ℤ) := by
    rw [← hzpow, div_mul_cancel₀ _ hpos.ne']
  rw [rounded, Nat.cast_mul, hzpow, hn]
  -- Rounding up may carry into a power of two.
  rcases hhigh.lt_or_eq with hlt | heq
  · exact hrounds.exists_canonical hfull hlow hlt hexcess
  · rw [heq] at hrounds ⊢
    exact_mod_cast hrounds.exists_canonical_carry hexcess

/-- What an integer is rounded to is a floating point number, the one that it is nearest to. -/
theorem exists_canonical (hn : 0 < n) (hle : n ≤ 2 ^ 64) :
    ∃ b : Binary, b.IsCanonical ∧ b.Holds n ∧ b.value = rounded n := by
  by_cases h : n < 2 ^ 53
  · have hholds := (ofInteger n).holds_value
    rw [value_ofInteger] at hholds
    refine ⟨ofInteger n, isCanonical_ofInteger hn h, hholds, ?_⟩
    rw [value_ofInteger, rounded_eq_self h.le]
  · exact exists_canonical_of_le (not_lt.mp h) hle

/-- A natural number becomes the floating point number that it is rounded to. -/
theorem ofNat_eq (hle : n ≤ 2 ^ 64) :
    ∃ b : Binary, b.IsFinite ∧ Float.ofNat n = b.toFloat .positive ∧ b.value = rounded n := by
  rcases Nat.eq_zero_or_pos n with rfl | hn
  · refine ⟨⟨0, 0, false⟩, .inl rfl, ?_, Binary.value_of_zero rfl⟩
    rw [Binary.toFloat, Binary.unpacked_of_zero rfl]
    rfl
  · obtain ⟨b, hb, hholds, hvalue⟩ := exists_canonical hn hle
    have hdecimal : b.Holds (n * 10 ^ (0 : ℤ)) := by rwa [zpow_zero, mul_one]
    have hfloat := ofScientific_eq hb hdecimal
    rw [Int.natAbs_zero] at hfloat
    refine ⟨b, .inr hb, ?_, hvalue⟩
    rw [← hfloat]
    rfl

/-! ### Signed integers -/

variable {i j : ℤ}

/-- An integer with its first 53 binary digits. -/
def roundedInt (i : ℤ) : ℤ := i.sign * rounded i.natAbs

/-- For natural numbers, this is the same. -/
theorem roundedInt_natCast (n : ℕ) : roundedInt n = rounded n := by
  rcases Nat.eq_zero_or_pos n with rfl | hn
  · rfl
  · rw [roundedInt, Int.sign_natCast_of_ne_zero hn.ne', one_mul, Int.natAbs_natCast]

/-- Rounding goes by the magnitude, so it is the same for both signs. -/
theorem roundedInt_neg (i : ℤ) : roundedInt (-i) = -roundedInt i := by
  rw [roundedInt, roundedInt, Int.sign_neg, Int.natAbs_neg, neg_mul]

/-- Integers up to the 53rd power of two stay as they are. -/
theorem roundedInt_eq_self (h : i.natAbs ≤ 2 ^ 53) : roundedInt i = i := by
  rw [roundedInt, rounded_eq_self h, Int.sign_mul_natAbs]

/-- The order of integers is not turned around. -/
theorem roundedInt_mono (h : i ≤ j) : roundedInt i ≤ roundedInt j := by
  obtain ⟨m, rfl | rfl⟩ := Int.eq_nat_or_neg i <;> obtain ⟨n, rfl | rfl⟩ := Int.eq_nat_or_neg j
  · rw [roundedInt_natCast, roundedInt_natCast]
    exact_mod_cast rounded_mono (by omega)
  · obtain ⟨rfl, rfl⟩ : m = 0 ∧ n = 0 := by omega
    simp
  · rw [roundedInt_neg, roundedInt_natCast, roundedInt_natCast]
    omega
  · rw [roundedInt_neg, roundedInt_neg, roundedInt_natCast, roundedInt_natCast]
    have hle : rounded n ≤ rounded m := rounded_mono (by omega)
    omega

/-- Integers of at most 53 digits keep their places among all the others. -/
theorem roundedInt_le_roundedInt (h : i.natAbs < 2 ^ 53 ∨ j.natAbs < 2 ^ 53) :
    roundedInt i ≤ roundedInt j ↔ i ≤ j := by
  refine ⟨fun hle => ?_, roundedInt_mono⟩
  by_contra! hlt
  -- The neighbour of the one that has so few digits stays as it is too, and lies between them.
  rcases h with hi | hj
  · have hnext : roundedInt j ≤ roundedInt (i - 1) := roundedInt_mono (by omega)
    rw [roundedInt_eq_self hi.le] at hle
    rw [roundedInt_eq_self (show (i - 1).natAbs ≤ 2 ^ 53 by omega)] at hnext
    omega
  · have hnext : roundedInt (j + 1) ≤ roundedInt i := roundedInt_mono hlt
    rw [roundedInt_eq_self hj.le] at hle
    rw [roundedInt_eq_self (show (j + 1).natAbs ≤ 2 ^ 53 by omega)] at hnext
    omega

/-! ### Widening -/

/-- A natural number of 64 bits widens to its first 53 digits. -/
theorem rational_ofNat (h : n ≤ 2 ^ 64) :
    (Float.ofNat n).isFinite = true ∧ rational (Float.ofNat n) = rounded n := by
  obtain ⟨b, hb, hfloat, hvalue⟩ := ofNat_eq h
  rw [hfloat, hb.rational_toFloat, withSign, hvalue]
  exact ⟨hb.isFinite_toFloat _, rfl⟩

/-- An integer becomes the floating point number that it is rounded to. -/
theorem rational_ofInt (h : i.natAbs ≤ 2 ^ 64) :
    (Float.ofInt i).isFinite = true ∧ rational (Float.ofInt i) = roundedInt i := by
  -- A negative integer is the opposite of its rounded magnitude.
  cases i with
  | ofNat n =>
    obtain ⟨hfinite, hvalue⟩ := rational_ofNat h
    rw [Int.ofNat_eq_natCast, roundedInt_natCast]
    exact ⟨hfinite, hvalue⟩
  | negSucc n =>
    obtain ⟨hfinite, hvalue⟩ := rational_ofNat h
    obtain ⟨hfinite', hvalue'⟩ := rational_neg hfinite
    have hinteger : Int.negSucc n = -((n + 1 : ℕ) : ℤ) := Int.negSucc_eq n
    refine ⟨hfinite', hvalue'.trans ?_⟩
    rw [hvalue, hinteger, roundedInt_neg, roundedInt_natCast]
    push_cast
    rfl

/-- The digits of a number are read as what the number becomes. -/
theorem readMagnitude_decimal (h : n ≤ 2 ^ 64) :
    readMagnitude? (Text.decimal n) = some (Float.ofNat n) := by
  have hdigits : ∀ c ∈ Text.decimal n ++ [], c.isDigit = true := by
    rw [List.append_nil]
    exact Text.decimal_isDigit n
  have hread := Text.readDigits_decimal n
  have hplain : withPoint (Text.decimal n) [] ++ [] = Text.decimal n := List.append_nil _
  rw [← hplain, readMagnitude_withPoint hdigits (by simp), List.append_nil, hread]
  show some (nearest n (Text.decimal n).length 0) = _
  -- Zero has no nearest canonical float here and is read directly.
  rcases Nat.eq_zero_or_pos n with rfl | hn
  · rfl
  · obtain ⟨b, hb, hholds, -⟩ := exists_canonical hn h
    have hdecimal : b.Holds (n * 10 ^ (0 : ℤ)) := by rwa [zpow_zero, mul_one]
    rw [nearest_eq hb (Text.readDigits_lt hread) hdecimal, ← ofScientific_eq hb hdecimal]
    rfl

/-- An integer is read from its digits as the floating point number that it widens to. -/
theorem readFloat_signedDecimal (h : i.natAbs ≤ 2 ^ 64) :
    readFloat? (Text.signedDecimal i) = some (Float.ofInt i) := by
  have hread := readMagnitude_decimal h
  have hdigit := Text.decimal_isDigit i.natAbs
  obtain ⟨d, rest, hdecimal⟩ := List.exists_cons_of_ne_nil (Text.decimal_ne_nil i.natAbs)
  rw [hdecimal] at hread hdigit
  have hd : d.isDigit = true := hdigit d List.mem_cons_self
  rw [Text.signedDecimal, hdecimal]
  -- The digits come first, after a minus if the integer is negative.
  cases i with
  | ofNat n =>
    rw [if_neg (by simp), readFloat_of_isDigit hd, hread]
    rfl
  | negSucc n =>
    rw [if_pos (Int.negSucc_lt_zero n), readFloat_minus hd, hread]
    rfl

end Questionnaire.Number
