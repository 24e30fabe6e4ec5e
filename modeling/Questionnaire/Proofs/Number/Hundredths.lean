import Questionnaire.Proofs.Number.Integer

namespace Questionnaire

/-!
# Two decimals

A number with two decimals is the nearest multiple of a hundredth, a half going to the even
neighbour.  The minus stays in front of a negative number that comes to zero.

* `Text.decimal_eq_toDigits` — the digits of a number are those that the library gives it.
* `Number.InHundredths` — the text of a number with two decimals, told without the program.
* `Number.inHundredths_iff` — that is what is written, and nothing else.
-/

/-! ### Digits -/

namespace Text

/-- The digits of a number in front of others. -/
theorem digitsOnto_eq_toDigits (fuel n : ℕ) (hfuel : n < Number.tenTo (fuel + 1))
    (acc : List Char) : digitsOnto 10 (fuel + 1) n acc = Nat.toDigits 10 n ++ acc := by
  have hdigit : ∀ d < 10, digitChar d = d.digitChar := by decide
  -- The last digit is put in front of `acc` first, and the others in front of it.
  induction fuel generalizing n acc with
  | zero =>
    have hsmall : n < 10 := hfuel
    rw [digitsOnto, if_pos hsmall, Nat.toDigits_of_lt_base hsmall, hdigit n hsmall]
    rfl
  | succ fuel ih =>
    rw [digitsOnto]
    split
    · next hsmall =>
      rw [Nat.toDigits_of_lt_base hsmall, hdigit n hsmall]
      rfl
    · next hlarge =>
      have hquotient : n / 10 < Number.tenTo (fuel + 1) := by
        rw [Nat.div_lt_iff_lt_mul (by omega)]
        exact hfuel
      rw [ih _ hquotient, hdigit _ (Nat.mod_lt n (by omega)),
        Nat.toDigits_of_base_le (by omega) (not_lt.mp hlarge), List.append_assoc]
      rfl

/-- The digits of a number are those that the library gives it. -/
theorem decimal_eq_toDigits (n : ℕ) : decimal n = Nat.toDigits 10 n := by
  have hfuel : n < Number.tenTo (n.log2 + 1) :=
    lt_of_lt_of_le Nat.lt_log2_self (Nat.pow_le_pow_left (by omega) _)
  rw [decimal, digits, digitsOnto_eq_toDigits _ n hfuel, List.append_nil]

/-- The last digit comes behind the others. -/
theorem decimal_of_le {n : ℕ} (h : 10 ≤ n) :
    decimal n = decimal (n / 10) ++ decimal (n % 10) := by
  rw [decimal_eq_toDigits, decimal_eq_toDigits, decimal_eq_toDigits,
    Nat.toDigits_of_base_le (by omega) h, Nat.toDigits_of_lt_base (Nat.mod_lt n (by omega))]

/-- A number below ten has one digit. -/
theorem length_decimal_of_lt {n : ℕ} (h : n < 10) : (decimal n).length = 1 := by
  rw [decimal_eq_toDigits, Nat.toDigits_of_lt_base h, List.length_singleton]

end Text

/-! ### Numbers with two decimals -/

namespace Number

open Questionnaire.Text (decimal)

/-- The text of a number with two decimals: of the hundredths that it rounds to, the last two stand
    behind the point. -/
inductive InHundredths (x : Float) : String → Prop
  | plus {n : ℕ} (hfinite : x.isFinite = true) (hsign : isNegative x = false)
      (hnearest : RoundsTo (|rational x| * 100) n) :
      InHundredths x
        (toString (n / 100) ++ "." ++ toString (n / 10 % 10) ++ toString (n % 10))
  | minus {n : ℕ} (hfinite : x.isFinite = true) (hsign : isNegative x = true)
      (hnearest : RoundsTo (|rational x| * 100) n) :
      InHundredths x
        ("-" ++ toString (n / 100) ++ "." ++ toString (n / 10 % 10) ++ toString (n % 10))
  | infinity (h : x = 1.0 / 0.0) : InHundredths x "inf"
  | negativeInfinity (h : x = -(1.0 / 0.0)) : InHundredths x "-inf"
  | notANumber (h : x = 0.0 / 0.0) : InHundredths x "NaN"

/-- With zeros in front of them where there are too few, the digits of a number of hundredths end in
    two digits behind those of the whole. -/
theorem padded_hundredths (n : ℕ) :
    List.replicate (3 - (decimal n).length) '0' ++ decimal n
      = decimal (n / 100) ++ (decimal (n / 10 % 10) ++ decimal (n % 10)) := by
  have hzero : decimal 0 = ['0'] := rfl
  -- With fewer than three digits the padding supplies the zeros before them.
  rcases lt_or_ge n 10 with hone | hten
  · rw [Text.length_decimal_of_lt hone, Nat.div_eq_of_lt (by omega : n < 100),
      Nat.div_eq_of_lt hone, Nat.mod_eq_of_lt hone, hzero]
    rfl
  · have hlast : (decimal (n % 10)).length = 1 := Text.length_decimal_of_lt (by omega)
    rw [Text.decimal_of_le hten, List.length_append, hlast]
    rcases lt_or_ge n 100 with hsmall | hlarge
    · rw [Text.length_decimal_of_lt (by omega : n / 10 < 10), Nat.div_eq_of_lt hsmall,
        Nat.mod_eq_of_lt (by omega : n / 10 < 10), hzero]
      rfl
    · have hnonempty := List.length_pos_of_ne_nil (Text.decimal_ne_nil (n / 10 / 10))
      rw [Text.decimal_of_le (by omega : 10 ≤ n / 10), List.length_append,
        Text.length_decimal_of_lt (by omega : n / 10 % 10 < 10),
        Nat.sub_eq_zero_of_le (by omega), Nat.div_div_eq_div_mul, List.append_assoc]
      rfl

/-- A number of hundredths is laid out with two digits behind the point. -/
theorem positional_hundredths (n : ℕ) :
    Scaled.positional ⟨n, -2⟩ = (decimal (n / 100), decimal (n / 10 % 10) ++ decimal (n % 10)) := by
  have hten : (decimal (n / 10 % 10)).length = 1 := Text.length_decimal_of_lt (by omega)
  have hone : (decimal (n % 10)).length = 1 := Text.length_decimal_of_lt (by omega)
  have hplaces : (-2 : ℤ).natAbs = 2 := rfl
  rw [Scaled.positional]
  dsimp only
  rw [if_neg (by decide), hplaces, padded_hundredths, List.take_left' (by simp [hten, hone]),
    List.drop_left' (by simp [hten, hone])]

/-- The magnitude of a number. -/
theorem abs_rational (x : Float) : |rational x| = (Binary.ofFloat x).value := by
  have hvalue : 0 ≤ (Binary.ofFloat x).value := by
    rw [Binary.value]
    positivity
  rw [rational]
  cases signOf x
  · rw [withSign, abs_neg, abs_of_nonneg hvalue]
  · rw [withSign, abs_of_nonneg hvalue]

/-- A finite number rounds to its units of a hundredth. -/
theorem roundsTo_hundredths (x : Float) :
    RoundsTo (|rational x| * 100) (units 2 (Binary.ofFloat x)) := by
  have hunits := roundsTo_units 2 (Binary.ofFloat x)
  have hhundred : (10 : ℚ) ^ 2 = 100 := by norm_num
  rwa [← abs_rational, hhundred] at hunits

/-- A finite number is written in the hundredths that it rounds to. -/
theorem fixed_of_roundsTo {x : Float} (hfinite : x.isFinite = true) {n : ℕ}
    (hnearest : RoundsTo (|rational x| * 100) n) :
    fixed 2 x = signed x
      (decimal (n / 100) ++ '.' :: (decimal (n / 10 % 10) ++ decimal (n % 10))) := by
  have hfraction : (decimal (n / 10 % 10) ++ decimal (n % 10)).isEmpty = false := by
    simp [Text.decimal_ne_nil]
  rw [fixed, if_neg (by simp [hfinite]), (roundsTo_hundredths x).unique hnearest]
  dsimp only
  rw [Nat.cast_ofNat, positional_hundredths]
  dsimp only
  rw [withPoint, hfraction, if_neg Bool.false_ne_true]

/-- A text of a number with two decimals is what is written. -/
theorem InHundredths.eq_fixed {x : Float} {text : String} (h : InHundredths x text) :
    text = String.ofList (fixed 2 x) := by
  apply String.toList_inj.mp
  rw [String.toList_ofList]
  -- A text in hundredths is determined by its sign and its nearest number of hundredths.
  cases h with
  | plus hfinite hsign hnearest =>
    rw [fixed_of_roundsTo hfinite hnearest, signed, hsign, if_neg Bool.false_ne_true]
    simp [Text.decimal_eq_toDigits]
  | minus hfinite hsign hnearest =>
    rw [fixed_of_roundsTo hfinite hnearest, signed, hsign, if_pos rfl]
    simp [Text.decimal_eq_toDigits]
  | infinity h =>
    rw [h]
    decide
  | negativeInfinity h =>
    rw [h]
    decide
  | notANumber h =>
    rw [h]
    decide

/-- A number has one such text only. -/
theorem InHundredths.unique {x : Float} {text other : String} (h : InHundredths x text)
    (hother : InHundredths x other) : text = other := h.eq_fixed.trans hother.eq_fixed.symm

/-- Every number has such a text. -/
theorem exists_inHundredths (x : Float) : ∃ text, InHundredths x text := by
  cases hfinite : x.isFinite with
  | true =>
    cases hsign : isNegative x with
    | true => exact ⟨_, .minus hfinite hsign (roundsTo_hundredths x)⟩
    | false => exact ⟨_, .plus hfinite hsign (roundsTo_hundredths x)⟩
  | false =>
    rcases eq_of_not_isFinite hfinite with hx | hx
    · rw [signOf] at hx
      split at hx
      · exact ⟨_, .negativeInfinity hx⟩
      · exact ⟨_, .infinity hx⟩
    · exact ⟨_, .notANumber hx⟩

/-- **Two decimals.** What is written with two decimals is the text of the number in hundredths, and
    the only one. -/
theorem inHundredths_iff {x : Float} {text : String} :
    InHundredths x text ↔ text = String.ofList (fixed 2 x) := by
  constructor
  · exact InHundredths.eq_fixed
  · intro h
    obtain ⟨other, hother⟩ := exists_inHundredths x
    rw [h, ← hother.eq_fixed]
    exact hother

end Number

end Questionnaire
