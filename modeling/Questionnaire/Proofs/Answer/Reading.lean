import Questionnaire.Proofs.Answer.Stretch
import Questionnaire.Proofs.Expression.Tree

namespace Questionnaire.Answer

open Questionnaire.Expression (Token tokensOf)

/-!
# Tokens of an answer

An answer is adapted and then cut into tokens.  Both go from left to right, so the tokens of an
answer are those of its first piece and then those of the rest.

* `Reads` — the tokens of an answer from a place on.
* `Reads.gap`, `Reads.opening`, `Reads.closing`, `Reads.mark`, `Reads.number`, `Reads.keyword`,
  `Reads.quoted` — one rule for each kind of piece.
-/

/-- From a place in code on, where `opened` tells whether a list has just been opened, the answer
    means an expression of these tokens. -/
def Reads (opened : Bool) (cs : List Char) (ts : List Token) : Prop :=
  ∃ code, expressionFrom opened false cs = some code ∧ tokensOf code = .ok ts

/-- The comma in front of the first item of a list. -/
def lead (opened : Bool) : List Token := if opened then [.comma] else []

/-- What stands in front of a list is read as its tokens. -/
theorem tokensOf_lead (opened : Bool) {code : List Char} {ts : List Token}
    (h : tokensOf code = .ok ts) :
    tokensOf (leadText opened ++ code) = .ok (lead opened ++ ts) := by
  cases opened with
  | false => exact h
  | true =>
    -- the added comma comes with a blank, which makes no token
    have hblank : Text.isBlank ' ' = true := by decide
    exact Expression.tokensOf_comma (Expression.tokensOf_blank hblank h)

/-- In front of something that ends a word, the expression ends a word. -/
theorem endsWord_expressionFrom {cs code : List Char} (h : IsDelimited cs)
    (hcode : expressionFrom false false cs = some code) : Expression.EndsWord code := by
  have hcomma : IsPlain ',' := by decide
  have hclosing : IsPlain ')' := by decide
  cases cs with
  | nil =>
    obtain rfl : [] = code := by simpa [expressionFrom, stretchesFrom, assemble, joined,
      replaceBrackets, replaceWords] using hcode
    rintro c ⟨⟩
  | cons c cs =>
    -- `IsDelimited` allows four first characters; `]` is the one that changes, into `)`
    rcases h c rfl with hblank | rfl | rfl | rfl
    · rw [expressionFrom_blank hblank] at hcode
      obtain ⟨more, -, rfl⟩ := Option.map_eq_some_iff.mp hcode
      rintro d ⟨⟩
      exact Or.inl hblank
    · rw [expressionFrom_plain hcomma] at hcode
      obtain ⟨more, -, rfl⟩ := Option.map_eq_some_iff.mp hcode
      rintro d ⟨⟩
      exact Or.inr (by decide)
    · rw [expressionFrom_closing] at hcode
      obtain ⟨more, -, rfl⟩ := Option.map_eq_some_iff.mp hcode
      rintro d ⟨⟩
      exact Or.inr (by decide)
    · rw [expressionFrom_plain hclosing] at hcode
      obtain ⟨more, -, rfl⟩ := Option.map_eq_some_iff.mp hcode
      rintro d ⟨⟩
      exact Or.inr (by decide)

namespace Reads

/-- The empty text is read as nothing. -/
theorem nil : Reads false [] [] := ⟨[], rfl, rfl⟩

/-- A gap in front is read as nothing. -/
theorem gap {gap : List Char} (h : Text.IsGap gap) {opened : Bool} {cs : List Char}
    {ts : List Token} (hcs : Reads opened cs ts) : Reads opened (gap ++ cs) ts := by
  obtain ⟨code, hcode, hts⟩ := hcs
  exact ⟨gap ++ code, by rw [expressionFrom_gap h, hcode]; rfl, Expression.tokensOf_gap h hts⟩

/-- An opening bracket. -/
theorem opening (opened : Bool) {cs : List Char} {ts : List Token} (hcs : Reads true cs ts) :
    Reads opened ('[' :: cs)
      (lead opened ++ ([.name "seq", .opening, .opening, .closing] ++ ts)) := by
  obtain ⟨code, hcode, hts⟩ := hcs
  refine ⟨leadText opened ++ (listOpening ++ code), ?_, ?_⟩
  · rw [expressionFrom_opening, hcode, Option.map_some, List.append_assoc]
  · exact tokensOf_lead opened (Expression.tokensOf_listOpening hts)

/-- A closing bracket; no comma comes in front of it. -/
theorem closing (opened : Bool) {cs : List Char} {ts : List Token} (hcs : Reads false cs ts) :
    Reads opened (']' :: cs) (.closing :: ts) := by
  obtain ⟨code, hcode, hts⟩ := hcs
  exact ⟨')' :: code, by rw [expressionFrom_closing, hcode]; rfl, Expression.tokensOf_closing hts⟩

/-- A parenthesis or a comma. -/
theorem mark (c : Char) (token : Token)
    (hc : (c, token) ∈ [('(', Token.opening), (')', .closing), (',', .comma)]) (opened : Bool)
    {cs : List Char} {ts : List Token} (hcs : Reads false cs ts) :
    Reads opened (c :: cs) (lead opened ++ token :: ts) := by
  obtain ⟨code, hcode, hts⟩ := hcs
  simp only [List.mem_cons, Prod.mk.injEq, List.not_mem_nil, or_false] at hc
  have hplain : IsPlain c := by
    rcases hc with ⟨rfl, rfl⟩ | ⟨rfl, rfl⟩ | ⟨rfl, rfl⟩ <;>
      decide
  have hword : Text.isWordChar c = false := by
    rcases hc with ⟨rfl, rfl⟩ | ⟨rfl, rfl⟩ | ⟨rfl, rfl⟩ <;> decide
  -- The mark itself is never in a word, so the code behind it starts outside of one.
  have htoken : tokensOf (c :: code) = .ok (token :: ts) := by
    rcases hc with ⟨rfl, rfl⟩ | ⟨rfl, rfl⟩ | ⟨rfl, rfl⟩
    · exact Expression.tokensOf_opening hts
    · exact Expression.tokensOf_closing hts
    · exact Expression.tokensOf_comma hts
  refine ⟨leadText opened ++ (c :: code), ?_, tokensOf_lead opened htoken⟩
  rw [expressionFrom_plain hplain, hword, hcode, Option.map_some, List.append_assoc,
    List.singleton_append]

/-- A number without sign. -/
theorem number {n : Nat} (h : n < Number.twoTo 63) (opened : Bool) {cs : List Char}
    {ts : List Token} (hdelimited : IsDelimited cs) (hcs : Reads false cs ts) :
    Reads opened (Text.decimal n ++ cs)
      (lead opened ++ .constant (.int (Int64.ofNat n)) :: ts) := by
  obtain ⟨code, hcode, hts⟩ := hcs
  -- Digits are one token only when the code behind them does not go on with a letter.
  have hletters : ∀ c ∈ Text.decimal n, Expression.IsLetter c := fun c hc =>
    Expression.isLetter_of_isDigit (Text.decimal_isDigit n c hc)
  have htoken := Expression.tokensOf_constant hletters (Expression.constantOf_decimal h)
    (endsWord_expressionFrom hdelimited hcode) hts
  refine ⟨leadText opened ++ (Text.decimal n ++ code), ?_, tokensOf_lead opened htoken⟩
  rw [expressionFrom_digits (Text.decimal_isDigit n) (Text.decimal_ne_nil n),
    expressionFrom_inWord hdelimited, hcode, Option.map_some, List.append_assoc]

/-- A number with a minus sign, and blanks between them. -/
theorem negative {gap : List Char} (hgap : Text.IsGap gap) {n : Nat} (h : n < Number.twoTo 63)
    (opened : Bool) {cs : List Char} {ts : List Token} (hdelimited : IsDelimited cs)
    (hcs : Reads false cs ts) :
    Reads opened ('-' :: (gap ++ (Text.decimal n ++ cs)))
      (lead opened ++ ([.minus, .constant (.int (Int64.ofNat n))] ++ ts)) := by
  obtain ⟨code, hcode, hts⟩ := hcs
  have hplain : IsPlain '-' := by decide
  have hletters : ∀ c ∈ Text.decimal n, Expression.IsLetter c := fun c hc =>
    Expression.isLetter_of_isDigit (Text.decimal_isDigit n c hc)
  have htokens := Expression.tokensOf_negative hgap hletters (Expression.constantOf_decimal h)
    (endsWord_expressionFrom hdelimited hcode) hts
  refine ⟨leadText opened ++ ('-' :: (gap ++ (Text.decimal n ++ code))), ?_,
    tokensOf_lead opened htokens⟩
  -- The sign closes the place behind a bracket: what follows it has no comma in front.
  have hdigits : expressionFrom false false (gap ++ (Text.decimal n ++ cs))
      = some (gap ++ (Text.decimal n ++ code)) := by
    rw [expressionFrom_gap hgap,
      expressionFrom_digits (Text.decimal_isDigit n) (Text.decimal_ne_nil n),
      expressionFrom_inWord hdelimited, hcode]
    rfl
  rw [expressionFrom_plain hplain, show Text.isWordChar '-' = false by decide, hdigits,
    Option.map_some, List.append_assoc, List.singleton_append]

/-- A keyword, with the tokens of the constant that it names. -/
theorem keyword (word constant : List Char) (first : List Token)
    (h : (word, constant) ∈ keywords)
    (hfirst : ∀ code ts, Expression.EndsWord code → tokensOf code = .ok ts →
      tokensOf (constant ++ code) = .ok (first ++ ts))
    (opened : Bool) {cs : List Char} {ts : List Token} (hdelimited : IsDelimited cs)
    (hcs : Reads false cs ts) : Reads opened (word ++ cs) (lead opened ++ (first ++ ts)) := by
  obtain ⟨code, hcode, hts⟩ := hcs
  -- `None` is replaced by two tokens and `True` by one, so the tokens are the caller's.
  have htokens := hfirst code ts (endsWord_expressionFrom hdelimited hcode) hts
  refine ⟨leadText opened ++ (constant ++ code), ?_, tokensOf_lead opened htokens⟩
  rw [expressionFrom_keyword h opened hdelimited, expressionFrom_inWord hdelimited, hcode,
    Option.map_some, List.append_assoc]

/-- The empty value is read as a pair of brackets. -/
theorem none (opened : Bool) {cs : List Char} {ts : List Token} (hdelimited : IsDelimited cs)
    (hcs : Reads false cs ts) :
    Reads opened ("None".toList ++ cs) (lead opened ++ ([.opening, .closing] ++ ts)) :=
  keyword "None".toList "()".toList [.opening, .closing] (by decide)
    (fun _ _ _ h => Expression.tokensOf_opening (Expression.tokensOf_closing h))
    opened hdelimited hcs

/-- A truth value is read as a constant. -/
theorem bool (b opened : Bool) {cs : List Char} {ts : List Token} (hdelimited : IsDelimited cs)
    (hcs : Reads false cs ts) :
    Reads opened (Value.written (.bool b) ++ cs)
      (lead opened ++ ([.constant (.bool b)] ++ ts)) := by
  cases b with
  | true =>
    have hletters : ∀ c ∈ "true".toList, Expression.IsLetter c :=
      List.all_iff_forall_prop.mp (by decide)
    have hconstant : Expression.constantOf? "true".toList = some (.bool true) := rfl
    exact keyword "True".toList "true".toList [.constant (.bool true)] (by decide)
      (fun _ _ hends h => Expression.tokensOf_constant hletters hconstant hends h)
      opened hdelimited hcs
  | false =>
    have hletters : ∀ c ∈ "false".toList, Expression.IsLetter c :=
      List.all_iff_forall_prop.mp (by decide)
    have hconstant : Expression.constantOf? "false".toList = some (.bool false) := rfl
    exact keyword "False".toList "false".toList [.constant (.bool false)] (by decide)
      (fun _ _ hends h => Expression.tokensOf_constant hletters hconstant hends h)
      opened hdelimited hcs

/-- A string between quotes of either kind. -/
theorem quoted {quote : Char} (hquote : IsQuote quote) (s : String) (opened : Bool)
    {cs : List Char} {ts : List Token} (hcs : Reads false cs ts) :
    Reads opened (quote :: escapeFor quote s.toList ++ quote :: cs)
      (lead opened ++ ([.constant (.str s)] ++ ts)) := by
  obtain ⟨code, hcode, hts⟩ := hcs
  refine ⟨leadText opened ++ (Value.writtenStr s ++ code), ?_,
    tokensOf_lead opened (Expression.tokensOf_quoted s hts)⟩
  rw [expressionFrom_quoted hquote, hcode, Option.map_some, List.append_assoc, Value.writtenStr]

end Reads

end Questionnaire.Answer
