import Questionnaire.Proofs.Number
import Questionnaire.Proofs.Number.Shortest

namespace Questionnaire.Number

open Questionnaire.Text (decimal signedDecimal readDigits?)

/-!
# Written numbers read back

* `Numeral` — the parts of a written number, with what they stand for.
* `readMagnitude_text` — how a written number is read.
* `positional_writes`, `scientific_writes` — both layouts keep the value of a decimal.
* `writtenIn_finite`, `writtenIn_special` — what is written is read as the absolute value.
-/

/-! ### Parts -/

/-- The parts of a written number. -/
structure Numeral where
  whole : List Char
  fraction : List Char
  exponent : Option ℤ

/-- The text of a number. -/
def Numeral.text (t : Numeral) : List Char :=
  withPoint t.whole t.fraction ++ (t.exponent.elim [] fun k => 'e' :: signedDecimal k)

/-- Digits stand in front of a point or an exponent, or both. -/
structure Numeral.IsWritten (t : Numeral) : Prop where
  digits : ∀ c ∈ t.whole ++ t.fraction, c.isDigit = true
  nonempty : t.whole ≠ []
  marked : t.fraction ≠ [] ∨ t.exponent.isSome = true

/-- A number with a point is written in digits but for the point. -/
theorem isDigit_withPoint {whole fraction : List Char}
    (hdigits : ∀ c ∈ whole ++ fraction, c.isDigit = true) :
    ∀ c ∈ withPoint whole fraction, c.isDigit = true ∨ c = '.' := by
  intro c hc
  rw [withPoint] at hc
  split at hc
  · exact .inl (hdigits c (List.mem_append_left _ hc))
  · rcases List.mem_append.mp hc with hc | hc
    · exact .inl (hdigits c (List.mem_append_left _ hc))
    · rcases List.mem_cons.mp hc with rfl | hc
      · exact .inr rfl
      · exact .inl (hdigits c (List.mem_append_right _ hc))

/-- A numeral is written in digits, a point, a minus and the letter of the exponent. -/
theorem Numeral.IsWritten.chars {t : Numeral} (h : t.IsWritten) :
    ∀ c ∈ t.text, c.isDigit = true ∨ c ∈ ['.', 'e', '-'] := by
  intro c hc
  -- The digits, the point, the `e` and the sign of the exponent.
  rcases List.mem_append.mp hc with hc | hc
  · exact (isDigit_withPoint h.digits c hc).imp_right (by rintro rfl; simp)
  · cases hexponent : t.exponent with
    | none =>
      rw [hexponent] at hc
      cases hc
    | some k =>
      rw [hexponent] at hc
      rcases List.mem_cons.mp hc with rfl | hc
      · simp
      · rw [signedDecimal] at hc
        split at hc
        · rcases List.mem_cons.mp hc with rfl | hc
          · simp
          · exact .inl (Text.decimal_isDigit _ c hc)
        · exact .inl (Text.decimal_isDigit _ c hc)

/-- A numeral is not empty. -/
theorem Numeral.IsWritten.text_ne_nil {t : Numeral} (h : t.IsWritten) : t.text ≠ [] := by
  rw [Numeral.text, withPoint]
  split <;> simp [h.nonempty]

/-- The exponent of the last digit. -/
def Numeral.last (t : Numeral) : ℤ := t.exponent.getD 0 - t.fraction.length

/-- An exponent is read as it is written. -/
theorem readExponent_signedDecimal (k : ℤ) : readExponent? ('e' :: signedDecimal k) = some k := by
  have hmark : ('e' == 'e' || 'e' == 'E') = true := rfl
  rw [readExponent?, if_pos hmark]
  by_cases hnegative : k < 0
  · rw [signedDecimal, if_pos hnegative]
    simp only [splitSign, Text.readDigits_decimal]
    show some (-(k.natAbs : ℤ)) = some k
    congr 1
    omega
  · rw [signedDecimal, if_neg hnegative]
    simp only [splitSign_decimal, Text.readDigits_decimal]
    show some (k.natAbs : ℤ) = some k
    congr 1
    omega

/-- Digits are taken up to the first other character. -/
theorem takeWhile_isDigit {ds rest : List Char} (hds : ∀ c ∈ ds, c.isDigit = true)
    (hrest : ∀ c, rest.head? = some c → c.isDigit = false) :
    (ds ++ rest).takeWhile Char.isDigit = ds ∧ (ds ++ rest).dropWhile Char.isDigit = rest := by
  have hstop : rest.takeWhile Char.isDigit = [] ∧ rest.dropWhile Char.isDigit = rest := by
    cases rest with
    | nil => exact ⟨rfl, rfl⟩
    | cons c rest => simp [List.takeWhile, List.dropWhile, hrest c rfl]
  rw [List.takeWhile_append_of_pos hds, List.dropWhile_append_of_pos hds, hstop.1, hstop.2,
    List.append_nil]
  exact ⟨rfl, rfl⟩

/-- Digits with a point are read up to what follows them, which is nothing or an exponent. -/
theorem readMagnitude_withPoint {whole fraction tail : List Char}
    (hdigits : ∀ c ∈ whole ++ fraction, c.isDigit = true)
    (htail : ∀ c, tail.head? = some c → c = 'e') :
    readMagnitude? (withPoint whole fraction ++ tail) =
      (readDigits? 10 (whole ++ fraction)).bind fun n => (readExponent? tail).map fun e =>
        nearest n (whole ++ fraction).length (e - fraction.length) := by
  have hwhole : ∀ c ∈ whole, c.isDigit = true := fun c hc => hdigits c (List.mem_append_left _ hc)
  have hfraction : ∀ c ∈ fraction, c.isDigit = true :=
    fun c hc => hdigits c (List.mem_append_right _ hc)
  have hstop : ∀ c, tail.head? = some c → c.isDigit = false := by
    intro c hc
    rw [htail c hc]
    rfl
  -- The digits before the point end at the point, or at what follows if there is none.
  have hparts : (withPoint whole fraction ++ tail).takeWhile Char.isDigit = whole ∧
      splitFraction ((withPoint whole fraction ++ tail).dropWhile Char.isDigit)
        = (fraction, tail) := by
    rw [withPoint]
    split
    · next hempty =>
      obtain rfl : fraction = [] := by simpa using hempty
      obtain ⟨htake, hdrop⟩ := takeWhile_isDigit hwhole hstop
      rw [hdrop]
      refine ⟨htake, ?_⟩
      cases tail with
      | nil => rfl
      | cons c tail =>
        obtain rfl : c = 'e' := htail c rfl
        rfl
    · have hpoint : ∀ c, ('.' :: (fraction ++ tail)).head? = some c → c.isDigit = false := by
        rintro c ⟨⟩
        rfl
      obtain ⟨htake, hdrop⟩ := takeWhile_isDigit hwhole hpoint
      obtain ⟨htake', hdrop'⟩ := takeWhile_isDigit hfraction hstop
      rw [List.append_assoc, List.cons_append, hdrop]
      exact ⟨htake, Prod.ext htake' hdrop'⟩
  rw [readMagnitude_eq, hparts.1, hparts.2, readParts_eq]

/-- A written number is read as the number nearest to its digits with its exponent. -/
theorem readMagnitude_text {t : Numeral} (ht : t.IsWritten) {n : ℕ}
    (hn : readDigits? 10 (t.whole ++ t.fraction) = some n) :
    readMagnitude? t.text = some (nearest n (t.whole ++ t.fraction).length t.last) := by
  have htail : ∀ c, (t.exponent.elim [] fun k => 'e' :: signedDecimal k).head? = some c →
      c = 'e' := by
    cases t.exponent <;> simp
  have hexponent : readExponent? (t.exponent.elim [] fun k => 'e' :: signedDecimal k) =
      some (t.exponent.getD 0) := by
    cases t.exponent with
    | none => rfl
    | some k => exact readExponent_signedDecimal k
  rw [Numeral.text, readMagnitude_withPoint ht.digits htail, hn, hexponent, Numeral.last]
  rfl

/-! ### Names -/

/-- What starts with a digit is not the name of a number. -/
theorem map_toLower_ne_of_isDigit {d : Char} (hd : d.isDigit = true) (rest : List Char)
    (name : String) (hname : (name.toList.any Char.isDigit) = false) :
    (String.ofList ((d :: rest).map Char.toLower) == name) = false := by
  rw [beq_eq_false_iff_ne]
  rintro rfl
  rw [String.toList_ofList, List.map_cons,
    Char.toLower_eq_of_not_isUpper (Text.not_isUpper_of_isDigit hd), List.any_cons, hd] at hname
  cases hname

/-- A number that begins with a digit has no sign and no name. -/
theorem readFloat_of_isDigit {d : Char} (hd : d.isDigit = true) (rest : List Char) :
    readFloat? (d :: rest) = readMagnitude? (d :: rest) := by
  unfold readFloat?
  simp only [splitSign_of_isDigit hd]
  rw [map_toLower_ne_of_isDigit hd rest "inf" (by decide),
    map_toLower_ne_of_isDigit hd rest "infinity" (by decide),
    map_toLower_ne_of_isDigit hd rest "nan" (by decide)]
  simp

/-- A minus in front of a digit negates the number. -/
theorem readFloat_minus {d : Char} (hd : d.isDigit = true) (rest : List Char) :
    readFloat? ('-' :: d :: rest) = (readMagnitude? (d :: rest)).map fun x => -x := by
  unfold readFloat?
  simp only [splitSign]
  rw [map_toLower_ne_of_isDigit hd rest "inf" (by decide),
    map_toLower_ne_of_isDigit hd rest "infinity" (by decide),
    map_toLower_ne_of_isDigit hd rest "nan" (by decide)]
  simp

/-! ### Layouts -/

/-- A written number stands for a rational number. -/
structure Numeral.Writes (t : Numeral) (q : ℚ) : Prop extends t.IsWritten where
  value : ∃ n, readDigits? 10 (t.whole ++ t.fraction) = some n ∧ (n : ℚ) * 10 ^ t.last = q

/-- The layout without an exponent; an integer gets a zero behind its point. -/
def Scaled.withoutExponent (d : Scaled) : Numeral where
  whole := d.positional.1
  fraction := if d.positional.2.isEmpty then ['0'] else d.positional.2
  exponent := none

/-- Zeros behind the digits make up for the exponent. -/
theorem positional_writes_integer {d : Scaled} (h : 0 ≤ d.exponent) :
    d.withoutExponent.Writes d.value := by
  have hdigits := isDigit_positional d
  have hpositional : d.positional =
      (decimal d.digits ++ List.replicate d.exponent.natAbs '0', []) := by
    rw [Scaled.positional]
    exact if_pos h
  -- The zero after the point is one more zero at the end of the digits.
  have hzeros : decimal d.digits ++ List.replicate d.exponent.natAbs '0' ++ ['0'] =
      decimal d.digits ++ List.replicate (d.exponent.natAbs + 1) '0' := by
    rw [List.replicate_succ', List.append_assoc]
  rw [hpositional] at hdigits
  rw [Scaled.withoutExponent, hpositional]
  refine ⟨⟨?_, ?_, ?_⟩, d.digits * 10 ^ (d.exponent.natAbs + 1), ?_, ?_⟩
  · intro c hc
    rcases List.mem_append.mp hc with hc | hc
    · exact hdigits c (.inl hc)
    · obtain rfl : c = '0' := List.mem_singleton.mp hc
      rfl
  · simp [Text.decimal_ne_nil]
  · simp
  · show readDigits? 10 (decimal d.digits ++ List.replicate d.exponent.natAbs '0' ++ ['0']) = _
    rw [hzeros, Text.readDigits_eq _ (by simp), Text.readDigitsFrom_append,
      Text.readDigitsFrom_decimal, Option.bind_some, Text.readDigitsFrom_zeros]
  · show ((d.digits * 10 ^ (d.exponent.natAbs + 1) : ℕ) : ℚ) * 10 ^ (-1 : ℤ) = d.value
    have hexponent : (10 : ℚ) ^ d.exponent = 10 ^ d.exponent.natAbs := by
      rw [← zpow_natCast]
      congr 1
      omega
    rw [Scaled.value, hexponent, pow_succ, zpow_neg_one]
    push_cast
    field_simp

/-- The last places of the digits, after zeros if there are too few of them, are the fraction. -/
theorem positional_writes_fraction {d : Scaled} (h : ¬0 ≤ d.exponent) :
    d.withoutExponent.Writes d.value := by
  have hdigits := isDigit_positional d
  obtain ⟨places, hplaces⟩ : ∃ k, k = d.exponent.natAbs := ⟨_, rfl⟩
  obtain ⟨padded, hpadded⟩ : ∃ cs, cs =
    List.replicate (places + 1 - (decimal d.digits).length) '0' ++ decimal d.digits := ⟨_, rfl⟩
  have hpositional : d.positional =
      (padded.take (padded.length - places), padded.drop (padded.length - places)) := by
    rw [Scaled.positional, hpadded, hplaces]
    exact if_neg h
  -- Padding leaves at least one digit before the point.
  have hlength : places + 1 ≤ padded.length := by
    rw [hpadded, List.length_append, List.length_replicate]
    omega
  have hread : readDigits? 10 padded = some d.digits := by
    rw [hpadded, Text.readDigits_eq _ (by simp [Text.decimal_ne_nil]), Text.readDigitsFrom_append,
      Text.readDigitsFrom_zeros, Option.bind_some, Nat.zero_mul, Text.readDigitsFrom_decimal]
  have hdrop : (padded.drop (padded.length - places)).length = places := by
    rw [List.length_drop]
    omega
  have hfraction : padded.drop (padded.length - places) ≠ [] := by
    intro hempty
    rw [hempty, List.length_nil] at hdrop
    omega
  rw [hpositional] at hdigits
  rw [Scaled.withoutExponent, hpositional]
  dsimp only
  rw [if_neg (by simpa using hfraction)]
  refine ⟨⟨?_, ?_, .inl hfraction⟩, d.digits, ?_, ?_⟩
  · intro c hc
    exact hdigits c (List.mem_append.mp hc)
  · intro hempty
    have htake := congrArg List.length hempty
    rw [List.length_take, List.length_nil] at htake
    omega
  · show readDigits? 10 (List.take _ padded ++ List.drop _ padded) = _
    rw [List.take_append_drop, hread]
  · rw [Scaled.value, Numeral.last]
    dsimp only
    rw [hdrop, Option.getD_none]
    congr 2
    omega

/-- Written without an exponent, digits stand for their value. -/
theorem positional_writes (d : Scaled) : d.withoutExponent.Writes d.value := by
  by_cases hnonneg : 0 ≤ d.exponent
  · exact positional_writes_integer hnonneg
  · exact positional_writes_fraction hnonneg

/-- Written with an exponent, which counts the places behind the first digit, digits stand for their
    value. -/
theorem scientific_writes (d : Scaled) :
    Numeral.Writes ⟨(decimal d.digits).take 1, (decimal d.digits).drop 1,
      some (d.exponent + ((decimal d.digits).length - 1 : ℕ))⟩ d.value := by
  have hdigits := Text.decimal_isDigit d.digits
  refine ⟨⟨?_, ?_, .inr rfl⟩, d.digits, ?_, ?_⟩
  · rwa [List.take_append_drop]
  · simp [Text.decimal_ne_nil]
  · rw [List.take_append_drop, Text.readDigits_decimal]
  · rw [Scaled.value, Numeral.last]
    dsimp only
    rw [List.length_drop, Option.getD_some, add_sub_cancel_right]

/-! ### Floating point numbers -/

/-- What is written is read as the floating point number that it is nearest to. -/
theorem Numeral.Writes.readMagnitude {b : Binary} {t : Numeral} {q : ℚ} (ht : t.Writes q)
    (hb : b.IsCanonical) (hq : b.Holds q) : readMagnitude? t.text = some (b.toFloat .positive) := by
  obtain ⟨n, hread, rfl⟩ := ht.value
  have hlt := Text.readDigits_lt hread
  rw [readMagnitude_text ht.toIsWritten hread, nearest_eq hb hlt hq]

/-- A numeral of zero is read as zero, whatever its exponent. -/
theorem Numeral.Writes.readMagnitude_zero {t : Numeral} (ht : t.Writes 0) :
    readMagnitude? t.text = some 0 := by
  obtain ⟨n, hread, hvalue⟩ := ht.value
  obtain rfl : n = 0 := by
    have hten : (10 : ℚ) ^ t.last ≠ 0 := by positivity
    exact_mod_cast (mul_eq_zero.mp hvalue).resolve_right hten
  rw [readMagnitude_text ht.toIsWritten hread]
  rfl

/-- **Floating point numbers.** A finite number is written with digits that are read back as its
    absolute value, with a minus in front if it is negative. -/
theorem writtenIn_finite (style : Style) {x : Float} (h : x.isFinite = true) :
    ∃ t : Numeral, t.IsWritten ∧ writtenIn style x = signed x t.text ∧
      readMagnitude? t.text = some x.abs := by
  obtain ⟨hb, hx⟩ := toFloat_ofFloat h
  have habs : x.abs = (Binary.ofFloat x).toFloat .positive := by
    rw [← hb.abs_toFloat (signOf x), hx]
  obtain ⟨t, hwrites, htext⟩ : ∃ t : Numeral,
      t.Writes ((Binary.ofFloat x).shortest style.tie).value ∧
        writtenIn style x = signed x t.text := by
    rw [writtenIn, if_neg (by simp [h])]
    dsimp only
    split
    · refine ⟨_, positional_writes _, ?_⟩
      rw [Numeral.text, Scaled.withoutExponent, Option.elim_none, List.append_nil]
    · exact ⟨_, scientific_writes _, rfl⟩
  refine ⟨t, hwrites.toIsWritten, htext, ?_⟩
  rw [habs]
  -- Zero is set apart, since no decimal is said to round to it.
  rcases hb with hzero | hb
  · have hshortest : (Binary.ofFloat x).shortest style.tie = ⟨0, 0⟩ := by
      rw [Binary.shortest, if_pos (by simpa using hzero)]
    rw [hshortest, Scaled.value, Nat.cast_zero, zero_mul] at hwrites
    rw [hwrites.readMagnitude_zero, Binary.toFloat, Binary.unpacked, dif_neg hzero.not_gt]
    rfl
  · exact hwrites.readMagnitude hb (holds_shortest hb.pos _)

/-- The texts of the numbers that are not finite. -/
theorem writtenIn_special (style : Style) {x : Float} (h : x.isFinite = false) :
    (writtenIn style x = signed x "inf".toList ∧ x.abs = 1.0 / 0.0) ∨
      writtenIn style x = "NaN".toList ∧ x = 0.0 / 0.0 := by
  rw [writtenIn, if_pos (by simp [h])]
  rcases eq_of_not_isFinite h with hx | rfl
  · left
    rw [signOf] at hx
    split at hx <;> rw [hx] <;> exact ⟨rfl, rfl⟩
  · exact .inr ⟨rfl, rfl⟩

end Questionnaire.Number
