import Questionnaire.Proofs.Expression.Token
import Questionnaire.Proofs.Number.Written

namespace Questionnaire.Expression

open Questionnaire.Number (Numeral withPoint readMagnitude? readFloat?)

/-!
# Numerals as constants

A written floating point number is one token, although a negative exponent takes it apart into two
words with a sign between them.

* `IsFloatWord.constantOf` — a word of digits that is no integer is the number that it writes.
* `WritesConstant` — a text that is one constant, whatever comes after it.
* `writesConstant_text` — a written number is the constant that it is read as.
-/

/-! ### Words -/

/-- A word that starts with a digit and has a point or the mark of an exponent. -/
structure IsFloatWord (cs : List Char) : Prop where
  start : ∃ d rest, cs = d :: rest ∧ d.isDigit = true
  chars : ∀ c ∈ cs, c.isDigit = true ∨ c = '.' ∨ c = 'e'
  marked : '.' ∈ cs ∨ 'e' ∈ cs

variable {cs : List Char}

namespace IsFloatWord

/-- The characters of the word belong to words. -/
theorem isLetter (h : IsFloatWord cs) : ∀ c ∈ cs, IsLetter c := by
  intro c hc
  rcases h.chars c hc with hdigit | rfl | rfl
  · exact isLetter_of_isDigit hdigit
  · decide
  · decide

/-- The word is no integer. -/
theorem readInt (h : IsFloatWord cs) : Number.readInt? cs = none := by
  obtain ⟨d, rest, rfl, hd⟩ := h.start
  rw [Number.readInt?, Number.readIntIn?, Number.splitSign_of_isDigit hd, Option.bind_eq_none_iff]
  intro n hn
  rcases h.marked with hmark | hmark
  · exact absurd hmark (Text.not_mem_of_readDigits hn (by decide))
  · exact absurd hmark (Text.not_mem_of_readDigits hn (by decide))

/-- Such a word is the floating point number that it writes, if it writes one. -/
theorem constantOf (h : IsFloatWord cs) : constantOf? cs = (readMagnitude? cs).map .float := by
  have hint := h.readInt
  -- A numeral has no `x` and starts with a digit, so it is neither hexadecimal nor a word.
  have hhexadecimal : 'x' ∉ cs := by
    intro hx
    rcases h.chars 'x' hx with hdigit | hpoint | hmark
    · cases hdigit
    · cases hpoint
    · cases hmark
  obtain ⟨d, rest, rfl, hd⟩ := h.start
  have hword (word : List Char) (hword : ∀ c ∈ word, c.isDigit = false) :
      (d :: rest == word) = false := by
    rw [beq_eq_false_iff_ne]
    rintro rfl
    rw [hword d (by simp)] at hd
    cases hd
  have htrue := hword "true".toList (List.all_iff_forall_prop.mp (by decide))
  have hfalse := hword "false".toList (List.all_iff_forall_prop.mp (by decide))
  unfold constantOf?
  rw [hint, Number.readFloat_of_isDigit hd]
  split
  · next ds hds =>
    rw [hds] at hhexadecimal
    exact absurd (by simp) hhexadecimal
  · rw [htrue, hfalse]
    cases readMagnitude? (d :: rest) <;> rfl

end IsFloatWord

/-! ### Texts of constants -/

/-- A text that starts with a word and is one constant, whatever comes after it. -/
structure WritesConstant (cs : List Char) (v : Value) : Prop where
  word : ∀ rest, EndsWord rest →
    ∃ ds more, lexemes (cs ++ rest) = (.word ds :: ·) <$> lexemes more
  tokens : ∀ rest ts, EndsWord rest → tokensOf rest = .ok ts →
    tokensOf (cs ++ rest) = .ok (.constant v :: ts)

/-- A word that writes a constant. -/
theorem WritesConstant.of_word {v : Value} (hcs : ∀ c ∈ cs, IsLetter c)
    (hv : constantOf? cs = some v) : WritesConstant cs v where
  word rest hrest := ⟨cs, rest, lexemes_word hcs (ne_nil_of_constantOf hv) hrest⟩
  tokens _ _ hrest hts := tokensOf_constant hcs hv hrest hts

/-- A minus sign in front of a constant. -/
theorem WritesConstant.tokensOf_minus {v : Value} (h : WritesConstant cs v) {rest : List Char}
    (hrest : EndsWord rest) {ts : List Token} (hts : tokensOf rest = .ok ts) :
    tokensOf ('-' :: (cs ++ rest)) = .ok (.minus :: .constant v :: ts) := by
  obtain ⟨ds, more, hword⟩ := h.word rest hrest
  exact Expression.tokensOf_minus rfl hword (h.tokens rest ts hrest hts)

/-- A word in front of a minus sign. -/
theorem lexemes_word_minus {front : List Char} (hfront : ∀ c ∈ front, IsLetter c) (hne : front ≠ [])
    (cs : List Char) :
    lexemes (front ++ '-' :: cs) = (.word front :: ·) <$> lexemes ('-' :: cs) := by
  rw [lexemes, lexemesFrom_word hfront, lexemesFrom_code (by decide), if_neg (by decide),
    if_pos (by decide), lexemes_mark (by decide) (by decide), Functor.map_map]
  simp [flush, hne, lexemes]

/-- Two words with a minus sign between them are one number, if the first one is no constant. -/
theorem WritesConstant.of_signed {front ds : List Char} {x : Float}
    (hfront : ∀ c ∈ front, IsLetter c) (hne : front ≠ []) (hds : ∀ c ∈ ds, IsLetter c)
    (hne' : ds ≠ []) (hnone : constantOf? front = none)
    (hx : readFloat? (front ++ '-' :: ds) = some x) :
    WritesConstant (front ++ '-' :: ds) (.float x) where
  word rest hrest := by
    refine ⟨front, '-' :: (ds ++ rest), ?_⟩
    rw [List.append_assoc, List.cons_append, lexemes_word_minus hfront hne]
  tokens rest ts hrest hts := by
    -- The word, the minus and the digits are three lexemes, which are joined to one token.
    have hlexemes : lexemes (front ++ '-' :: ds ++ rest) =
        (fun following => .word front :: .mark '-' :: .word ds :: following) <$> lexemes rest := by
      rw [List.append_assoc, List.cons_append, lexemes_word_minus hfront hne,
        lexemes_mark (by decide) (by decide), lexemes_word hds hne' hrest, Functor.map_map,
        Functor.map_map]
    obtain ⟨following, hfollowing, htokens⟩ := Except.bind_eq_ok.mp hts
    have hsplit : splitExponent? front (.mark '-' :: .word ds :: following) = some x := by
      rw [splitExponent?, if_pos (by rfl), hx]
    rw [tokensOf, hlexemes, hfollowing]
    show tokensFrom 0 (.word front :: .mark '-' :: .word ds :: following) = _
    rw [tokensFrom]
    simp only [tokenAt, wordToken, hnone, hsplit]
    show (Token.constant (.float x) :: ·) <$> tokensFrom 0 following = _
    replace htokens : tokensFrom 0 following = .ok ts := htokens
    rw [htokens]
    rfl

/-! ### Written numbers -/

variable {whole fraction : List Char}

/-- Digits with a point, and digits behind the mark of an exponent, are one word. -/
theorem IsFloatWord.of_withPoint {tail : List Char}
    (hdigits : ∀ c ∈ whole ++ fraction, c.isDigit = true) (hne : whole ≠ [])
    (htail : ∀ c ∈ tail, c.isDigit = true ∨ c = 'e') (hmarked : fraction ≠ [] ∨ 'e' ∈ tail) :
    IsFloatWord (withPoint whole fraction ++ tail) where
  start := by
    obtain ⟨d, more, rfl⟩ := List.exists_cons_of_ne_nil hne
    have hd := hdigits d (by simp)
    rw [withPoint]
    split
    · exact ⟨d, _, rfl, hd⟩
    · exact ⟨d, _, rfl, hd⟩
  chars c hc := by
    rcases List.mem_append.mp hc with hc | hc
    · exact (Number.isDigit_withPoint hdigits c hc).imp_right .inl
    · exact (htail c hc).imp_right .inr
  marked := by
    refine hmarked.imp (fun hfraction => ?_) fun hmark => List.mem_append_right _ hmark
    rw [withPoint, if_neg (by simpa using hfraction)]
    simp

/-- **Numerals.** A written number is the constant that it is read as. -/
theorem writesConstant_text {t : Numeral} (ht : t.IsWritten) {x : Float}
    (hx : readMagnitude? t.text = some x) : WritesConstant t.text (.float x) := by
  have hword (tail : List Char) (htail : t.text = withPoint t.whole t.fraction ++ tail)
      (hchars : ∀ c ∈ tail, c.isDigit = true ∨ c = 'e')
      (hmarked : t.fraction ≠ [] ∨ 'e' ∈ tail) : WritesConstant t.text (.float x) := by
    have h := IsFloatWord.of_withPoint ht.digits ht.nonempty hchars hmarked
    rw [← htail] at h
    exact .of_word h.isLetter (by rw [h.constantOf, hx]; rfl)
  cases hexponent : t.exponent with
  | none =>
    refine hword [] ?_ (by simp) (.inl (ht.marked.resolve_right ?_))
    · rw [Numeral.text, hexponent, Option.elim_none]
    · rw [hexponent]
      simp
  | some k =>
    have hdecimal := Text.decimal_isDigit k.natAbs
    by_cases hnegative : k < 0
    · -- The sign of the exponent takes the text apart into three pieces.
      have htext : t.text = withPoint t.whole t.fraction ++ ['e'] ++
          '-' :: Text.decimal k.natAbs := by
        rw [Numeral.text, hexponent, Option.elim_some, Text.signedDecimal, if_pos hnegative,
          List.append_assoc]
        rfl
      have hfront : IsFloatWord (withPoint t.whole t.fraction ++ ['e']) :=
        .of_withPoint ht.digits ht.nonempty (by simp) (.inr (by simp))
      have hnone : constantOf? (withPoint t.whole t.fraction ++ ['e']) = none := by
        rw [hfront.constantOf, Number.readMagnitude_withPoint ht.digits (by simp)]
        cases Text.readDigits? 10 (t.whole ++ t.fraction) <;> rfl
      have hread : readFloat? t.text = some x := by
        obtain ⟨d, rest, hstart, hd⟩ := hfront.start
        rw [htext, hstart, List.cons_append] at hx ⊢
        rw [Number.readFloat_of_isDigit hd, hx]
      rw [htext] at hread ⊢
      exact .of_signed hfront.isLetter (by simp)
        (fun c hc => isLetter_of_isDigit (hdecimal c hc)) (Text.decimal_ne_nil _) hnone hread
    · refine hword ('e' :: Text.decimal k.natAbs) ?_ ?_ (.inr (by simp))
      · rw [Numeral.text, hexponent, Option.elim_some, Text.signedDecimal, if_neg hnegative]
      · intro c hc
        rcases List.mem_cons.mp hc with rfl | hc
        · exact .inr rfl
        · exact .inl (hdecimal c hc)

end Questionnaire.Expression
