import Questionnaire.Proofs.Answer.Literal
import Questionnaire.Proofs.Expression.Numeral

namespace Questionnaire.Answer

open Questionnaire.Expression (Token Builds WritesConstant)

/-!
# Numbers as answers

The token of a number is read as that number, except for the smallest integer: its digits are read
before its sign, and there is no such integer.

* `IsConstant` — a text that stays as it is and is one constant.
* `means_token` — the token of a floating point number means that number.
* `means_writtenInt` — the token of an integer means that integer, unless it is the smallest one.
-/

/-! ### Words that stay -/

/-- A text that stays as it is when an answer is adapted, in front of anything that may follow a
    word. -/
def IsKept (cs : List Char) : Prop := ∀ (opened : Bool) (rest : List Char), IsDelimited rest →
  expressionFrom opened false (cs ++ rest) =
    (expressionFrom false false rest).map (leadText opened ++ cs ++ ·)

/-- Plain characters go into the expression as they are, up to the end of the literal. -/
theorem expressionFrom_plains {cs : List Char} (hcs : ∀ c ∈ cs, IsPlain c) (hne : cs ≠ [])
    (opened inWord : Bool) {rest : List Char} (hrest : IsDelimited rest) :
    expressionFrom opened inWord (cs ++ rest) =
      (expressionFrom false false rest).map (leadText opened ++ cs ++ ·) := by
  induction cs generalizing opened inWord with
  | nil => exact absurd rfl hne
  | cons c cs ih =>
    rw [List.cons_append, expressionFrom_plain (hcs c (by simp))]
    cases cs with
    | nil => rw [List.nil_append, expressionFrom_inWord hrest]
    | cons d ds =>
      rw [ih (fun e he => hcs e (by simp [he])) (by simp), Option.map_map]
      congr 1
      funext text
      simp [leadText]

/-- Plain text is kept. -/
theorem IsKept.of_plain {cs : List Char} (hcs : ∀ c ∈ cs, IsPlain c) (hne : cs ≠ []) : IsKept cs :=
  fun opened _ hrest => expressionFrom_plains hcs hne opened false hrest

/-- The name of what is no number begins like a keyword, but is none. -/
theorem isKept_nan : IsKept "NaN".toList := by
  intro opened rest hrest
  -- None of the letters is a quote, a blank or a bracket, so they go on as they are.
  have hquote : ∀ c ∈ "NaN".toList, c ≠ '"' ∧ c ≠ '\x27' := List.all_iff_forall_prop.mp (by decide)
  have hbracket (c : Char) (hc : c ∈ "NaN".toList) (followed opened : Bool) (cs : List Char) :
      replaceBrackets followed opened (c :: cs) =
        leadText opened ++ c :: replaceBrackets followed false cs := by
    have hfull : ∀ c ∈ "NaN".toList, Text.isBlank c = false ∧ c ≠ '[' ∧ c ≠ ']' :=
      List.all_iff_forall_prop.mp (by decide)
    exact replaceBrackets_full (hfull c hc).1 (hfull c hc).2 followed opened cs
  -- The text begins like a keyword, but the second letter already differs.
  have hword (cs : List Char) : replaceWords false ('N' :: 'a' :: 'N' :: cs) =
      'N' :: 'a' :: 'N' :: replaceWords true cs := by
    have hN : Text.isWordChar 'N' = true := by decide
    have ha : Text.isWordChar 'a' = true := by decide
    have hstart : replaceWords false ('N' :: 'a' :: 'N' :: cs) =
        'N' :: replaceWords true ('a' :: 'N' :: cs) := rfl
    rw [hstart, replaceWords_inWord, ha, replaceWords_inWord, hN]
  rw [← expressionFrom_inWord hrest false true]
  refine expressionFrom_append "NaN".toList hquote fun followed d _ => ?_
  show replaceWords false (replaceBrackets followed opened ('N' :: 'a' :: 'N' :: d)) = _
  rw [hbracket 'N' (by decide), hbracket 'a' (by decide), hbracket 'N' (by decide),
    replaceWords_lead opened (by simp)]
  show leadText opened ++ replaceWords false ('N' :: 'a' :: 'N' :: _) = _
  rw [hword]
  simp

/-! ### Constants -/

variable {cs : List Char} {v w : Value}

/-- A constant. -/
theorem Reads.constant (hkept : IsKept cs) (hwrites : WritesConstant cs v) (opened : Bool)
    {rest : List Char} {ts : List Token} (hrest : IsDelimited rest) (hts : Reads false rest ts) :
    Reads opened (cs ++ rest) (lead opened ++ ([.constant v] ++ ts)) := by
  obtain ⟨code, hcode, htokens⟩ := hts
  refine ⟨leadText opened ++ (cs ++ code), ?_,
    tokensOf_lead opened (hwrites.tokens code ts (endsWord_expressionFrom hrest hcode) htokens)⟩
  rw [hkept opened rest hrest, hcode, Option.map_some, List.append_assoc]

/-- A constant with a minus sign. -/
theorem Reads.negated (hkept : IsKept cs) (hwrites : WritesConstant cs v) (opened : Bool)
    {rest : List Char} {ts : List Token} (hrest : IsDelimited rest) (hts : Reads false rest ts) :
    Reads opened ('-' :: (cs ++ rest)) (lead opened ++ ([.minus, .constant v] ++ ts)) := by
  obtain ⟨code, hcode, htokens⟩ := hts
  have hplain : IsPlain '-' := by decide
  have hends := endsWord_expressionFrom hrest hcode
  refine ⟨leadText opened ++ ('-' :: (cs ++ code)), ?_,
    tokensOf_lead opened (hwrites.tokensOf_minus hends htokens)⟩
  -- The sign closes the place behind a bracket: what follows it has no comma in front.
  rw [expressionFrom_plain hplain, show Text.isWordChar '-' = false by decide,
    hkept false rest hrest, hcode, Option.map_some, Option.map_some, List.append_assoc]
  rfl

/-- A text that is kept and that is a constant. -/
structure IsConstant (cs : List Char) (v : Value) : Prop where
  nonempty : cs ≠ []
  notBlank : ∀ c ∈ cs, Text.isBlank c = false
  kept : IsKept cs
  writes : WritesConstant cs v

/-- A constant means its value. -/
theorem Means.constant (h : IsConstant cs v) : Means cs v where
  nonempty := h.nonempty
  startsFull := Text.startsFull_of_mem h.notBlank
  endsFull := Text.startsFull_of_mem fun c hc => h.notBlank c (List.mem_reverse.mp hc)
  reads := ⟨_, Builds.constant v, fun opened _ _ hrest hmore =>
    Reads.constant h.kept h.writes opened hrest hmore⟩

/-- With a minus in front, it means the negated value. -/
theorem Means.negated (h : IsConstant cs v) (hw : Expression.negation v = .ok w) :
    Means ('-' :: cs) w where
  nonempty := by simp
  startsFull := Text.startsFull_cons (by decide) _
  endsFull := by
    intro c hc
    rw [List.reverse_cons, List.head?_append_of_ne_nil _ (by simpa using h.nonempty)] at hc
    exact h.notBlank c (List.mem_reverse.mp (List.mem_of_mem_head? hc))
  reads := ⟨_, Builds.negated hw, fun opened _ _ hrest hmore =>
    Reads.negated h.kept h.writes opened hrest hmore⟩

/-- Plain text is a constant if its characters write one. -/
theorem IsConstant.of_plain (hcs : ∀ c ∈ cs, IsPlain c) (hne : cs ≠ [])
    (hwrites : WritesConstant cs v) : IsConstant cs v :=
  ⟨hne, fun c hc => (hcs c hc).notBlank, .of_plain hcs hne, hwrites⟩

/-! ### Numbers -/

/-- A digit is plain. -/
theorem isPlain_of_isDigit {c : Char} (h : c.isDigit = true) : IsPlain c := by
  have hother : ∀ d ∈ ['"', '\x27', '[', ']', 'T', 'F', 'N'], d.isDigit = false :=
    List.all_iff_forall_prop.mp (by decide)
  have hne (d : Char) (hd : d ∈ ['"', '\x27', '[', ']', 'T', 'F', 'N']) : c ≠ d := by
    rintro rfl
    rw [hother c hd] at h
    cases h
  exact ⟨Text.isBlank_of_isDigit h, ⟨hne _ (by simp), hne _ (by simp)⟩,
    ⟨hne _ (by simp), hne _ (by simp)⟩, ⟨hne _ (by simp), hne _ (by simp), hne _ (by simp)⟩⟩

/-- A written number is a constant. -/
theorem isConstant_text {t : Number.Numeral} (ht : t.IsWritten) {x : Float}
    (hx : Number.readMagnitude? t.text = some x) : IsConstant t.text (.float x) := by
  refine .of_plain (fun c hc => ?_) ht.text_ne_nil (Expression.writesConstant_text ht hx)
  rcases ht.chars c hc with hdigit | hmark
  · exact isPlain_of_isDigit hdigit
  · have hplain : ∀ d ∈ ['.', 'e', '-'], IsPlain d := List.all_iff_forall_prop.mp (by decide)
    exact hplain c hmark

/-- The name of infinity is a constant. -/
theorem isConstant_inf : IsConstant "inf".toList (.float (1.0 / 0.0)) :=
  .of_plain (List.all_iff_forall_prop.mp (by decide)) (by simp)
    (.of_word (List.all_iff_forall_prop.mp (by decide)) rfl)

/-- The name of what is no number is a constant. -/
theorem isConstant_nan : IsConstant "NaN".toList (.float (0.0 / 0.0)) where
  nonempty := by simp
  notBlank := List.all_iff_forall_prop.mp (by decide)
  kept := isKept_nan
  writes := .of_word (List.all_iff_forall_prop.mp (by decide)) rfl

/-- A number with its sign in front. -/
theorem means_signed {x : Float} (h : IsConstant cs (.float x.abs)) :
    Means (Number.signed x cs) (.float x) := by
  have habs := Number.signed_abs x
  rw [Number.signed]
  split at habs
  · next hnegative =>
    rw [if_pos hnegative]
    have hnegation : Expression.negation (.float x.abs) = .ok (.float x) := by
      show Except.ok (Value.float (-x.abs)) = _
      rw [habs]
    exact .negated h hnegation
  · next hnonneg =>
    rw [if_neg hnonneg]
    rw [habs] at h
    exact .constant h

/-- **Floating point numbers.** The token of a floating point number means that number. -/
theorem means_token (x : Float) : Means (Number.token x) (.float x) := by
  cases hfinite : x.isFinite with
  | true =>
    obtain ⟨t, ht, htext, hread⟩ := Number.writtenIn_finite ⟨-4, .up⟩ hfinite
    rw [Number.token, htext]
    exact means_signed (isConstant_text ht hread)
  | false =>
    rcases Number.writtenIn_special ⟨-4, .up⟩ hfinite with ⟨htext, habs⟩ | ⟨htext, rfl⟩
    · rw [Number.token, htext]
      exact means_signed (habs ▸ isConstant_inf)
    · rw [Number.token, htext]
      exact .constant isConstant_nan

/-! ### Integers -/

/-- What the token of an integer means. -/
def rereadInt (i : Int64) : Value :=
  if i = Int64.minValue then .float (-9223372036854775808) else .int i

/-- The magnitude of the smallest integer is a constant, though it is too large for an integer. -/
theorem isConstant_smallest :
    IsConstant (Text.decimal 9223372036854775808) (.float 9223372036854775808) :=
  .of_plain (fun c hc => isPlain_of_isDigit (Text.decimal_isDigit _ c hc)) (Text.decimal_ne_nil _)
    (.of_word (fun c hc => Expression.isLetter_of_isDigit (Text.decimal_isDigit _ c hc)) rfl)

/-- **Integers.** The token of an integer means that integer, and that of the smallest one means the
    floating point number next to it. -/
theorem means_writtenInt (i : Int64) : Means (Value.writtenInt i) (rereadInt i) := by
  rw [rereadInt]
  split
  · next hsmallest =>
    subst hsmallest
    exact .negated isConstant_smallest rfl
  · next hlarger =>
    have hrange : i.toInt.natAbs < Number.twoTo 63 := by
      have hne : i.toInt ≠ -2 ^ 63 := fun h => hlarger (Int64.toInt.inj h)
      have hlow := i.le_toInt
      have hhigh := i.toInt_lt
      show i.toInt.natAbs < 2 ^ 63
      omega
    have hmeans := Means.writtenInt hrange
    rwa [Int64.ofInt_toInt] at hmeans

end Questionnaire.Answer
