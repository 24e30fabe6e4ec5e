import Mathlib.Algebra.Group.Nat.Defs
import Mathlib.Data.Bool.AllAny
import Mathlib.Data.List.Basic
import Questionnaire.Number.Power
import Questionnaire.Text.Blank
import Questionnaire.Text.Digits
import Questionnaire.Text.Split
import Questionnaire.Text.Utf8
import Questionnaire.Text.Word

namespace Questionnaire.Text

/-!
# Texts

* `trim_padded` — blanks around a text that has none at its ends are all that trimming drops.
* `trim_trim` — trimming twice is trimming once.
* `exists_gaps` — trimming drops nothing but blanks.
* `readDigits_decimal` — the digits of a number are read as that number.
* `isWordChar_of_isBlank` — a blank ends a word.
* `splitOnce_eq_some_iff` — a text is taken apart at the first place of a separator.
* `before_append`, `eq_of_before` — what stands in front of an end is found again.
-/

/-! ### Blanks -/

/-- A text of blanks. -/
def IsGap (cs : List Char) : Prop := ∀ c ∈ cs, isBlank c = true

/-- Whether a text holds nothing but blanks can be decided. -/
instance (cs : List Char) : Decidable (IsGap cs) :=
  decidable_of_iff (cs.all isBlank = true) List.all_eq_true

/-- The first character, if there is one, is no blank. -/
def StartsFull (cs : List Char) : Prop := ∀ c, cs.head? = some c → isBlank c = false

/-- A text starts full if its first character is no blank. -/
theorem startsFull_cons {c : Char} (h : isBlank c = false) (cs : List Char) :
    StartsFull (c :: cs) := by
  rintro d ⟨⟩
  exact h

/-- A text in brackets has no blanks at its ends. -/
theorem endsFull_concat {c : Char} (h : isBlank c = false) (cs : List Char) :
    StartsFull (cs ++ [c]).reverse := by
  rw [List.reverse_append]
  exact startsFull_cons h _

/-- A text without blanks starts full. -/
theorem startsFull_of_mem {cs : List Char} (h : ∀ c ∈ cs, isBlank c = false) :
    StartsFull cs := fun c hc => h c (List.mem_of_mem_head? hc)

/-- At the start of such a text there is nothing to trim. -/
theorem trimStart_of_startsFull {cs : List Char} (h : StartsFull cs) : trimStart cs = cs := by
  cases cs with
  | nil => rfl
  | cons c rest => simp [trimStart, h c rfl]

/-- At its end there is nothing to trim if the reversed text starts full. -/
theorem trimEnd_of_startsFull {cs : List Char} (h : StartsFull cs.reverse) : trimEnd cs = cs := by
  have hdrop : cs.reverse.dropWhile isBlank = cs.reverse := trimStart_of_startsFull h
  rw [trimEnd, hdrop, List.reverse_reverse]

/-- What is left of a text after blanks have been dropped starts with no blank. -/
theorem startsFull_dropWhile (cs : List Char) : StartsFull (cs.dropWhile isBlank) := by
  intro c hc
  by_contra hblank
  have hall := List.head?_dropWhile_not isBlank cs
  rw [hc] at hall
  exact hblank (by simpa using hall)

/-- Dropping blanks at the end leaves the first character, if anything is left. -/
theorem startsFull_trimEnd {cs : List Char} (h : StartsFull cs) : StartsFull (trimEnd cs) := by
  intro c hc
  have hsuffix : cs.reverse.dropWhile isBlank <:+ cs.reverse := List.dropWhile_suffix isBlank
  -- What is dropped at the end stands behind what is left.
  obtain ⟨front, hfront⟩ := hsuffix
  have hcs : trimEnd cs ++ front.reverse = cs := by
    rw [trimEnd, ← List.reverse_append, hfront, List.reverse_reverse]
  apply h c
  rw [← hcs, List.head?_append, hc]
  rfl

/-- What is left of a text by trimming starts with no blank. -/
theorem startsFull_trim (cs : List Char) : StartsFull (trim cs) :=
  startsFull_trimEnd (startsFull_dropWhile cs)

/-- What is left of a text by trimming ends with no blank. -/
theorem endsFull_trim (cs : List Char) : StartsFull (trim cs).reverse := by
  rw [trim, trimEnd, List.reverse_reverse]
  exact startsFull_dropWhile _

/-- Trimming a second time changes nothing. -/
theorem trim_trim (cs : List Char) : trim (trim cs) = trim cs := by
  rw [trim, trimStart_of_startsFull (startsFull_trim cs), trimEnd_of_startsFull (endsFull_trim cs)]

/-- Trimming twice is trimming once, for strings. -/
theorem trimmed_trimmed (s : String) : trimmed (trimmed s) = trimmed s := by
  rw [trimmed, trimmed, String.toList_ofList, trim_trim]

/-- Blanks in front are dropped with whatever blanks follow them. -/
theorem dropWhile_isBlank_gap {gap : List Char} (h : IsGap gap) (cs : List Char) :
    (gap ++ cs).dropWhile isBlank = cs.dropWhile isBlank := by
  rw [List.dropWhile_append_of_pos h]

/-- **Padding.** Blanks around a text that has none at its ends are all that trimming drops. -/
theorem trim_padded {before cs after : List Char} (hbefore : IsGap before) (hafter : IsGap after)
    (hne : cs ≠ []) (hstart : StartsFull cs) (hend : StartsFull cs.reverse) :
    trim (before ++ cs ++ after) = cs := by
  -- The blanks in front go first; those behind are in front once the text is reversed.
  have hfront : trimStart (before ++ cs ++ after) = cs ++ after := by
    rw [trimStart, List.append_assoc, dropWhile_isBlank_gap hbefore]
    apply trimStart_of_startsFull
    intro c hc
    apply hstart c
    rwa [List.head?_append_of_ne_nil _ hne] at hc
  have hgap : IsGap after.reverse := fun c hc => hafter c (List.mem_reverse.mp hc)
  rw [trim, hfront, trimEnd, List.reverse_append, dropWhile_isBlank_gap hgap]
  exact trimEnd_of_startsFull hend

/-- What stands in front of the first other character is blank. -/
theorem isGap_takeWhile (cs : List Char) : IsGap (cs.takeWhile isBlank) := fun c hc =>
  List.all_eq_true.mp List.all_takeWhile c hc

/-- Only blanks are dropped by trimming. -/
theorem exists_gaps (cs : List Char) :
    ∃ before after, IsGap before ∧ IsGap after ∧ cs = before ++ trim cs ++ after := by
  refine ⟨cs.takeWhile isBlank, ((trimStart cs).reverse.takeWhile isBlank).reverse,
    isGap_takeWhile cs, fun c hc => isGap_takeWhile _ c (List.mem_reverse.mp hc), ?_⟩
  have hend : trim cs ++ ((trimStart cs).reverse.takeWhile isBlank).reverse = trimStart cs := by
    rw [trim, trimEnd, ← List.reverse_append, List.takeWhile_append_dropWhile, List.reverse_reverse]
  rw [List.append_assoc, hend, trimStart, List.takeWhile_append_dropWhile]

/-- Nothing is left by trimming if there is nothing but blanks. -/
theorem trim_eq_nil_iff {cs : List Char} : trim cs = [] ↔ IsGap cs := by
  constructor
  · intro h
    obtain ⟨before, after, hbefore, hafter, hcs⟩ := exists_gaps cs
    rw [h, List.append_nil] at hcs
    rw [hcs]
    intro c hc
    exact (List.mem_append.mp hc).elim (hbefore c) (hafter c)
  · intro h
    have hdrop : trimStart cs = [] := by
      simpa [trimStart] using dropWhile_isBlank_gap h []
    rw [trim, hdrop]
    rfl

/-! ### Digits -/

/-- The characters of the digits below ten. -/
theorem digitChar_eq (d : Nat) (h : d < 10) :
    (digitChar d).isDigit = true ∧ digitValue? 10 (digitChar d) = some d := by
  have hall : ∀ d < 10, (digitChar d).isDigit = true ∧ digitValue? 10 (digitChar d) = some d := by
    decide
  exact hall d h

/-- Every character of a decimal number is a digit. -/
theorem digitsOnto_isDigit (fuel n : Nat) {acc : List Char} (hacc : ∀ c ∈ acc, c.isDigit = true) :
    ∀ c ∈ digitsOnto 10 fuel n acc, c.isDigit = true := by
  induction fuel generalizing n acc with
  | zero => exact hacc
  | succ fuel ih =>
    rw [digitsOnto]
    split
    · intro c hc
      rcases List.mem_cons.mp hc with rfl | hc
      · exact (digitChar_eq n ‹_›).1
      · exact hacc c hc
    · apply ih
      intro c hc
      rcases List.mem_cons.mp hc with rfl | hc
      · exact (digitChar_eq _ (Nat.mod_lt n (by omega))).1
      · exact hacc c hc

/-- A decimal is written in digits only. -/
theorem decimal_isDigit (n : Nat) : ∀ c ∈ decimal n, c.isDigit = true :=
  digitsOnto_isDigit _ n (by simp)

/-- Digits are added in front; at least one comes out of any fuel at all. -/
theorem digitsOnto_ne_nil (fuel n : Nat) {acc : List Char} (hacc : acc ≠ [] ∨ 0 < fuel) :
    digitsOnto 10 fuel n acc ≠ [] := by
  induction fuel generalizing n acc with
  | zero => simpa [digitsOnto] using hacc
  | succ fuel ih =>
    rw [digitsOnto]
    split
    · simp
    · exact ih _ (Or.inl (by simp))

/-- A decimal has at least one digit. -/
theorem decimal_ne_nil (n : Nat) : decimal n ≠ [] := digitsOnto_ne_nil _ n (Or.inr (by omega))

/-- The digits of `n` in front of others are read as `n` and then the others. -/
theorem readDigitsFrom_digitsOnto (fuel n : Nat) (hfuel : n < Number.tenTo fuel) (acc : List Char) :
    readDigitsFrom 10 0 (digitsOnto 10 fuel n acc) = readDigitsFrom 10 n acc := by
  -- The writer puts digits in front of `acc`, the last one first, so the induction is on its fuel,
  -- for every number and every `acc`.
  induction fuel generalizing n acc with
  | zero =>
    obtain rfl : n = 0 := Nat.lt_one_iff.mp hfuel
    rw [digitsOnto]
  | succ fuel ih =>
    rw [digitsOnto]
    split
    · rw [readDigitsFrom, (digitChar_eq n ‹_›).2]
      simp
    · have hdigit := digitChar_eq (n % 10) (Nat.mod_lt n (by omega))
      have hquotient : n / 10 < Number.tenTo fuel := by
        rw [Nat.div_lt_iff_lt_mul (by omega)]
        exact hfuel
      rw [ih (n / 10) hquotient, readDigitsFrom, hdigit.2]
      show readDigitsFrom 10 (n / 10 * 10 + n % 10) acc = _
      rw [Nat.div_add_mod']

/-- **Decimal numbers.** The digits of a number are read as that number. -/
theorem readDigits_decimal (n : Nat) : readDigits? 10 (decimal n) = some n := by
  have hfuel : n < Number.tenTo (n.log2 + 1) :=
    Nat.lt_of_lt_of_le Nat.lt_log2_self (Nat.pow_le_pow_left (by omega) _)
  have hread : readDigitsFrom 10 0 (decimal n) = some n :=
    readDigitsFrom_digitsOnto _ n hfuel []
  have hne : (decimal n).isEmpty = false := by
    simpa using decimal_ne_nil n
  rw [readDigits?, hne]
  exact hread

/-! ### Rows of digits -/

/-- Digits are read from left to right, so a text can be read in two parts. -/
theorem readDigitsFrom_append (base acc : Nat) (cs ds : List Char) :
    readDigitsFrom base acc (cs ++ ds) =
      (readDigitsFrom base acc cs).bind fun n => readDigitsFrom base n ds := by
  induction cs generalizing acc with
  | nil => rfl
  | cons c cs ih =>
    rw [List.cons_append, readDigitsFrom, readDigitsFrom]
    cases digitValue? base c with
    | none => rfl
    | some d => exact ih _

/-- Zeros at the end multiply by the base. -/
theorem readDigitsFrom_zeros (acc k : Nat) :
    readDigitsFrom 10 acc (List.replicate k '0') = some (acc * 10 ^ k) := by
  induction k generalizing acc with
  | zero => simp [readDigitsFrom]
  | succ k ih =>
    have hzero : digitValue? 10 '0' = some 0 := rfl
    rw [List.replicate_succ, readDigitsFrom, hzero]
    dsimp only
    rw [ih, Nat.add_zero, Nat.pow_succ', Nat.mul_assoc]

/-- A row of digits is read as a number with no more digits. -/
theorem readDigitsFrom_lt {acc n : Nat} {cs : List Char} (h : readDigitsFrom 10 acc cs = some n) :
    n < (acc + 1) * 10 ^ cs.length := by
  induction cs generalizing acc with
  | nil =>
    cases h
    simp
  | cons c cs ih =>
    rw [readDigitsFrom] at h
    split at h
    · next d hd =>
      have hlt : d < 10 := by
        obtain ⟨hsmall, hvalue⟩ := Option.ite_none_right_eq_some.mp hd
        exact Option.some.inj hvalue ▸ hsmall
      calc n < (acc * 10 + d + 1) * 10 ^ cs.length := ih h
        _ ≤ ((acc + 1) * 10) * 10 ^ cs.length := Nat.mul_le_mul_right _ (by omega)
        _ = (acc + 1) * 10 ^ (c :: cs).length := by
          rw [List.length_cons, Nat.pow_succ', Nat.mul_assoc]
    · cases h

/-- Reading the digits of a text that has some is reading them onto zero. -/
theorem readDigits_eq (cs : List Char) (h : cs ≠ []) :
    readDigits? 10 cs = readDigitsFrom 10 0 cs := by
  rw [readDigits?, if_neg (by simpa using h)]

/-- A number that is read has at most as many digits as its text. -/
theorem readDigits_lt {n : Nat} {cs : List Char} (h : readDigits? 10 cs = some n) :
    n < 10 ^ cs.length := by
  rw [readDigits?] at h
  split at h
  · cases h
  · simpa using readDigitsFrom_lt h

/-- The digits of `n` are read onto zero as `n`. -/
theorem readDigitsFrom_decimal (n : Nat) : readDigitsFrom 10 0 (decimal n) = some n := by
  rw [← readDigits_eq _ (decimal_ne_nil n), readDigits_decimal]

/-- A character that is no digit does not stand among digits. -/
theorem not_mem_of_readDigitsFrom {base acc n : Nat} {c : Char} {cs : List Char}
    (h : readDigitsFrom base acc cs = some n) (hc : digitValue? base c = none) :
    c ∉ cs := by
  induction cs generalizing acc with
  | nil => exact List.not_mem_nil
  | cons d cs ih =>
    rw [readDigitsFrom] at h
    split at h
    · rename_i hd
      refine List.not_mem_cons_of_ne_of_not_mem ?_ (ih h)
      rintro rfl
      rw [hc] at hd
      cases hd
    · cases h

/-- A character that is no digit does not stand among digits. -/
theorem not_mem_of_readDigits {base n : Nat} {c : Char} {cs : List Char}
    (h : readDigits? base cs = some n) (hc : digitValue? base c = none) : c ∉ cs := by
  rw [readDigits?] at h
  split at h
  · cases h
  · exact not_mem_of_readDigitsFrom h hc

/-! ### Words -/

/-- The letters and digits of ASCII, by their codes. -/
theorem isAlphanum_iff (c : Char) : c.isAlphanum = true ↔
    (65 ≤ c.toNat ∧ c.toNat ≤ 90) ∨ (97 ≤ c.toNat ∧ c.toNat ≤ 122)
      ∨ (48 ≤ c.toNat ∧ c.toNat ≤ 57) := by
  show ((decide (65 ≤ c.val ∧ c.val ≤ 90) || (97 ≤ c.val && c.val ≤ 122))
    || (48 ≤ c.val && c.val ≤ 57)) = true ↔ _
  simp only [Bool.or_eq_true, Bool.and_eq_true, decide_eq_true_eq, UInt32.le_iff_toNat_le]
  exact or_assoc

/-- The digits of ASCII, by their codes. -/
theorem isDigit_iff (c : Char) : c.isDigit = true ↔ 48 ≤ c.toNat ∧ c.toNat ≤ 57 := by
  simp only [Char.isDigit, ge_iff_le, Bool.and_eq_true, decide_eq_true_eq,
    UInt32.le_iff_toNat_le]
  rfl

/-- A digit is no capital letter. -/
theorem not_isUpper_of_isDigit {c : Char} (h : c.isDigit = true) : ¬ c.isUpper := by
  have hrange := (isDigit_iff c).mp h
  intro hupper
  have hletter : 65 ≤ c.toNat := UInt32.le_iff_toNat_le.mp (of_decide_eq_true hupper).1
  omega

/-- A digit is no blank. -/
theorem isBlank_of_isDigit {c : Char} (h : c.isDigit = true) : isBlank c = false := by
  rw [isDigit_iff] at h
  simp [isBlank]
  omega

/-- A digit may stand in a word. -/
theorem isWordChar_of_isDigit {c : Char} (h : c.isDigit = true) : isWordChar c = true := by
  have hrange := (isDigit_iff c).mp h
  have halphanum : c.isAlphanum = true := (isAlphanum_iff c).mpr (by omega)
  rw [isWordChar, if_pos (by omega), halphanum]
  rfl

/-- The blanks beyond ASCII. -/
def wideBlanks : List Nat :=
  [0x85, 0xA0, 0x1680, 0x2000, 0x2001, 0x2002, 0x2003, 0x2004, 0x2005, 0x2006, 0x2007, 0x2008,
    0x2009, 0x200A, 0x2028, 0x2029, 0x202F, 0x205F, 0x3000]

/-- None of the wide blanks lies in a range of word characters. -/
theorem wordRanges_wideBlanks : ∀ n ∈ wideBlanks,
    (wordRanges.any fun (first, last) => first ≤ n && n ≤ last) = false := by
  simp only [← Array.any_toList]
  decide +kernel

/-- A blank ends a word. -/
theorem isWordChar_of_isBlank {c : Char} (h : isBlank c = true) : isWordChar c = false := by
  simp only [isBlank, Bool.or_eq_true, Bool.and_eq_true, decide_eq_true_eq, beq_iff_eq] at h
  rw [isWordChar]
  split
  · -- Below 128, only letters, digits and the underscore belong to words.
    have halphanum : c.isAlphanum = false := by
      rw [← Bool.not_eq_true, isAlphanum_iff]
      omega
    have hunderscore : c ≠ '_' := by
      rintro rfl
      revert h
      decide
    simp [halphanum, hunderscore]
  · -- Above, the table of ranges decides.
    apply wordRanges_wideBlanks
    simp only [wideBlanks, List.mem_cons, List.not_mem_nil, or_false]
    omega

/-! ### Ends and encodings -/

/-- What follows a start is found behind it. -/
theorem after_append (start cs : List Char) : after? start (start ++ cs) = some cs := by
  induction start with
  | nil => rfl
  | cons c start ih => simp [after?, ih]

/-- What stands in front of an end is found again. -/
theorem before_append (finish cs : List Char) :
    before? finish (cs ++ finish) = some cs := by
  simp [before?, after_append]

/-- What is found behind a start does follow it. -/
theorem eq_of_after {start cs rest : List Char} (h : after? start cs = some rest) :
    cs = start ++ rest := by
  induction start generalizing cs with
  | nil => exact Option.some.inj h
  | cons a start ih =>
    cases cs with
    | nil => cases h
    | cons c cs =>
      rw [after?] at h
      split at h
      · rename_i hac
        rw [beq_iff_eq.mp hac, ih h, List.cons_append]
      · cases h

/-- A text is taken apart at the first place where the separator stands. -/
theorem splitOnce_eq_some_iff {separator cs front back : List Char} :
    splitOnce? separator cs = some (front, back)
      ↔ cs = front ++ separator ++ back
        ∧ ∀ lead rest, cs = lead ++ separator ++ rest → front.length ≤ lead.length := by
  induction cs generalizing front with
  | nil =>
    rw [splitOnce?]
    cases separator with
    | nil =>
      constructor
      · rintro ⟨⟩
        exact ⟨rfl, fun lead _ _ => Nat.zero_le lead.length⟩
      · rintro ⟨hsplit, -⟩
        obtain ⟨⟨rfl, -⟩, rfl⟩ := List.append_eq_nil_iff.mp hsplit.symm |>.imp_left
          List.append_eq_nil_iff.mp
        rfl
    | cons a separator => simp
  | cons c cs ih =>
    rw [splitOnce?]
    cases hafter : after? separator (c :: cs) with
    | some found =>
      have hcs := eq_of_after hafter
      constructor
      · rintro ⟨⟩
        exact ⟨hcs, fun lead _ _ => Nat.zero_le lead.length⟩
      · rintro ⟨hsplit, hfirst⟩
        -- the separator stands at the start, so nothing is in front of it
        obtain rfl : front = [] := List.eq_nil_of_length_eq_zero
          (Nat.le_zero.mp (hfirst [] found hcs))
        rw [List.nil_append, hcs] at hsplit
        rw [List.append_cancel_left hsplit]
    | none =>
      have hnone (rest : List Char) : c :: cs ≠ separator ++ rest := by
        intro heq
        rw [heq, after_append] at hafter
        cases hafter
      dsimp only
      rw [Option.map_eq_some_iff]
      constructor
      · rintro ⟨⟨later, _⟩, hlater, ⟨⟩⟩
        obtain ⟨rfl, hfirst⟩ := ih.mp hlater
        refine ⟨rfl, fun lead rest hlead => ?_⟩
        cases lead with
        | nil => exact absurd hlead (hnone rest)
        | cons d lead => exact Nat.succ_le_succ (hfirst lead rest (List.cons.inj hlead).2)
      · rintro ⟨hsplit, hfirst⟩
        cases front with
        | nil => exact absurd hsplit (hnone back)
        | cons d later =>
          obtain ⟨rfl, rfl⟩ := List.cons.inj hsplit
          refine ⟨(later, back), ih.mpr ⟨rfl, fun lead rest hlead => ?_⟩, rfl⟩
          exact Nat.le_of_succ_le_succ (hfirst (c :: lead) rest (congrArg (c :: ·) hlead))

/-- If the separator starts with a character that has not been there, it has not been there. -/
theorem splitOnce_append {mark : Char} {front : List Char} (h : mark ∉ front)
    (more back : List Char) :
    splitOnce? (mark :: more) (front ++ mark :: more ++ back) = some (front, back) := by
  refine splitOnce_eq_some_iff.mpr ⟨rfl, fun lead rest hlead => ?_⟩
  by_contra hlt
  -- the mark behind `lead` would be a character of `front`
  have hmark : (front ++ mark :: more ++ back)[lead.length]? = some mark := by
    rw [hlead]
    simp
  rw [List.append_assoc, List.getElem?_append_left (by omega)] at hmark
  exact h (List.mem_of_getElem? hmark)

/-- A text is taken apart at the first place of a character. -/
theorem splitOnce_of_not_mem {mark : Char} {front : List Char} (h : mark ∉ front)
    (back : List Char) : splitOnce? [mark] (front ++ mark :: back) = some (front, back) := by
  simpa using splitOnce_append h [] back

/-- What stands in front of an end is all of a text but that end. -/
theorem eq_of_before {finish cs front : List Char} (h : before? finish cs = some front) :
    cs = front ++ finish := by
  obtain ⟨back, hback, rfl⟩ := Option.map_eq_some_iff.mp h
  simpa using congrArg List.reverse (eq_of_after hback)

/-- The bytes of a string are read as that string. -/
theorem ofUtf8_toUTF8 (s : String) : ofUtf8? s.toUTF8 = some s := by
  have hvalid : s.toUTF8.IsValidUTF8 := s.isValidUTF8
  rw [ofUtf8?, String.fromUTF8?, dif_pos hvalid]
  rfl

end Questionnaire.Text
