import Questionnaire.Number.Read
import Questionnaire.Number.Written
import Questionnaire.Proofs.Text

namespace Questionnaire.Number

/-!
# Numbers

* `readInt_signedDecimal` — an integer of 64 bits is read as it is written.
* `readMagnitude_eq` — a magnitude is read in three parts.
* `isNumeral_signedDecimal`, `isNumeral_plain` — the characters of numbers that are written without
  an exponent.
-/

/-! ### Integers -/

/-- A digit is no sign. -/
theorem splitSign_of_isDigit {d : Char} (hd : d.isDigit = true) (rest : List Char) :
    splitSign (d :: rest) = (false, d :: rest) := by
  unfold splitSign
  split
  · next h =>
    cases h
    cases hd
  · next h =>
    cases h
    cases hd
  · rfl

/-- A decimal has no sign in front. -/
theorem splitSign_decimal (n : Nat) :
    splitSign (Text.decimal n) = (false, Text.decimal n) := by
  obtain ⟨d, rest, hdecimal⟩ := List.exists_cons_of_ne_nil (Text.decimal_ne_nil n)
  have hdigit := Text.decimal_isDigit n
  rw [hdecimal] at hdigit ⊢
  exact splitSign_of_isDigit (hdigit d (by simp)) rest

/-- The range of the integers whose magnitude has 63 bits; the smallest integer of 64 bits is not
    among them. -/
theorem int64OfInt_eq {i : Int} (h : i.natAbs < twoTo 63) :
    int64OfInt? i = some (Int64.ofInt i) ∧ (Int64.ofInt i).toInt = i := by
  have htwo : twoTo 63 = 9223372036854775808 := rfl
  have hmin : Int64.minValue.toInt = -9223372036854775808 := by decide
  have hmax : Int64.maxValue.toInt = 9223372036854775807 := by decide
  rw [htwo] at h
  constructor
  · rw [int64OfInt?, if_pos (by omega)]
  · exact Int64.toInt_ofInt_of_le (by omega) (by omega)

/-- An integer of 64 bits is found again by its value. -/
theorem int64OfInt_toInt (i : Int64) : int64OfInt? i.toInt = some i := by
  have hrange : Int64.minValue.toInt ≤ i.toInt ∧ i.toInt ≤ Int64.maxValue.toInt :=
    ⟨i.minValue_le_toInt, i.toInt_le⟩
  rw [int64OfInt?, if_pos hrange, Int64.ofInt_toInt]

/-- An integer of 64 bits is read as it is written. -/
theorem readInt_signedDecimal (i : Int64) : readInt? (Text.signedDecimal i.toInt) = some i := by
  have hread := int64OfInt_toInt i
  by_cases hnegative : i.toInt < 0
  · have hmagnitude : i.toInt = -(i.toInt.natAbs : Int) := by omega
    rw [hmagnitude] at hread
    rw [Text.signedDecimal, if_pos hnegative, readInt?, readIntIn?]
    simp only [splitSign, Text.readDigits_decimal, Option.bind_some]
    exact hread
  · have hmagnitude : i.toInt = (i.toInt.natAbs : Int) := by omega
    rw [hmagnitude] at hread
    rw [Text.signedDecimal, if_neg hnegative, readInt?, readIntIn?]
    simp only [splitSign_decimal, Text.readDigits_decimal, Option.bind_some]
    exact hread

/-! ### Magnitudes -/

/-- The digits behind a point, if there is one at the start, and what follows them. -/
def splitFraction (cs : List Char) : List Char × List Char := match cs with
  | '.' :: rest => (rest.takeWhile Char.isDigit, rest.dropWhile Char.isDigit)
  | _ => ([], cs)

/-- A character other than a point is on one of its sides. -/
theorem mem_splitFraction {c : Char} (hc : c ≠ '.') {cs : List Char} (h : c ∈ cs) :
    c ∈ (splitFraction cs).1 ∨ c ∈ (splitFraction cs).2 := by
  unfold splitFraction
  split
  · next rest =>
    rw [← List.mem_append, List.takeWhile_append_dropWhile]
    exact (List.mem_cons.mp h).resolve_left hc
  · exact .inr h

/-- The number that the digits of a magnitude and the text of an exponent write. -/
def readParts? (whole fraction exponent : List Char) : Option Float :=
  match Text.readDigits? 10 (whole ++ fraction), readExponent? exponent with
  | some n, some e => some (nearest n (whole ++ fraction).length (e - fraction.length))
  | _, _ => none

/-- The digits on both sides are read as one number, and those behind the point lower the
    exponent. -/
theorem readParts_eq (whole fraction exponent : List Char) :
    readParts? whole fraction exponent =
      (Text.readDigits? 10 (whole ++ fraction)).bind fun n => (readExponent? exponent).map fun e =>
        nearest n (whole ++ fraction).length (e - fraction.length) := by
  unfold readParts?
  cases Text.readDigits? 10 (whole ++ fraction) <;> cases readExponent? exponent <;> rfl

/-- A magnitude is read in three parts. -/
theorem readMagnitude_eq (cs : List Char) :
    readMagnitude? cs =
      readParts? (cs.takeWhile Char.isDigit) (splitFraction (cs.dropWhile Char.isDigit)).1
        (splitFraction (cs.dropWhile Char.isDigit)).2 := rfl

/-! ### Characters -/

/-- A character of a number that is written without an exponent. -/
def IsNumeral (c : Char) : Prop := c.isDigit = true ∨ c = '-' ∨ c = '.'

/-- Whether a character occurs in numerals can be decided. -/
instance (c : Char) : Decidable (IsNumeral c) := inferInstanceAs (Decidable (_ ∨ _))

/-- No blank does. -/
theorem IsNumeral.notBlank {c : Char} (h : IsNumeral c) : Text.isBlank c = false := by
  rcases h with h | rfl | rfl
  · exact Text.isBlank_of_isDigit h
  · decide
  · decide

/-- An integer is written in such characters. -/
theorem isNumeral_signedDecimal (i : Int) : ∀ c ∈ Text.signedDecimal i, IsNumeral c := by
  intro c hc
  rw [Text.signedDecimal] at hc
  split at hc
  · rcases List.mem_cons.mp hc with rfl | hc
    · exact .inr (.inl rfl)
    · exact .inl (Text.decimal_isDigit _ c hc)
  · exact .inl (Text.decimal_isDigit _ c hc)

/-- A number is written in digits before and behind the point. -/
theorem isDigit_positional (d : Scaled) :
    ∀ c, c ∈ d.positional.1 ∨ c ∈ d.positional.2 → c.isDigit = true := by
  have hzeros (n : Nat) : ∀ c ∈ List.replicate n '0', c.isDigit = true := by
    intro c hc
    rw [(List.mem_replicate.mp hc).2]
    rfl
  have hdigits := Text.decimal_isDigit d.digits
  intro c hc
  unfold Scaled.positional at hc
  dsimp only at hc
  split at hc
  · simp only [List.not_mem_nil, or_false, List.mem_append] at hc
    exact hc.elim (hdigits c) (hzeros _ c)
  · -- both parts are taken from the digits after zeros
    have hpadded := hc.elim List.mem_of_mem_take List.mem_of_mem_drop
    exact (List.mem_append.mp hpadded).elim (hzeros _ c) (hdigits c)

/-- With a sign and a point these are still such characters. -/
theorem isNumeral_signed (x : Float) (d : Scaled) :
    ∀ c ∈ signed x (withPoint d.positional.1 d.positional.2), IsNumeral c := by
  -- Digits are on both sides of the point, and before them there may be a minus.
  have hpoint : ∀ c ∈ withPoint d.positional.1 d.positional.2, IsNumeral c := by
    intro c hc
    unfold withPoint at hc
    split at hc
    · exact .inl (isDigit_positional d c (.inl hc))
    · rcases List.mem_append.mp hc with hc | hc
      · exact .inl (isDigit_positional d c (.inl hc))
      · rcases List.mem_cons.mp hc with rfl | hc
        · exact .inr (.inr rfl)
        · exact .inl (isDigit_positional d c (.inr hc))
  intro c hc
  unfold signed at hc
  split at hc
  · rcases List.mem_cons.mp hc with rfl | hc
    · exact .inr (.inl rfl)
    · exact hpoint c hc
  · exact hpoint c hc

/-- A finite number without exponent is written in such characters. -/
theorem isNumeral_plain {x : Float} (h : x.isFinite = true) : ∀ c ∈ plain x, IsNumeral c := by
  rw [plain, if_neg (by simp [h])]
  exact isNumeral_signed x _

/-- A finite number with a fixed number of places is written in such characters. -/
theorem isNumeral_fixed (places : Nat) {x : Float} (h : x.isFinite = true) :
    ∀ c ∈ fixed places x, IsNumeral c := by
  rw [fixed, if_neg (by simp [h])]
  exact isNumeral_signed x _

end Questionnaire.Number
