import Questionnaire.Answer.Stretch
import Questionnaire.Proofs.Text
import Questionnaire.Value.Written

namespace Questionnaire.Answer

open Questionnaire.Text (isBlank isWordChar)

/-!
# Expressions from a place on

An answer is cut, its code adapted, and the pieces joined.  Read from left to right this is one
pass: what has been read matters only through two flags, whether a list has just been opened and
whether the last character belongs to a word.

* `expressionFrom` — the expression of the rest of an answer, given the two flags.
* `expressionFrom_append` — code that is adapted by itself is adapted in front of any rest.
* `expressionFrom_plain`, `expressionFrom_opening`, `expressionFrom_keyword` and
  `expressionFrom_quoted` — the pass over a character, a bracket, a keyword, a string.
-/

/-! ### The pass -/

/-- The expression of a row of pieces, with the two flags for the first one. -/
def assemble (opened inWord : Bool) : List Stretch → List Char
  | .code cs :: rest =>
    replaceWords inWord (replaceBrackets (!rest.isEmpty) opened cs) ++ joined rest
  | pieces => joined pieces

/-- The expression of an answer from a place in code on. -/
def expressionFrom (opened inWord : Bool) (cs : List Char) : Option (List Char) :=
  (stretchesFrom none [] cs).map (assemble opened inWord)

/-- From its beginning on, this is the expression of the whole answer. -/
theorem assemble_false (pieces : List Stretch) : assemble false false pieces = joined pieces := by
  cases pieces with
  | nil => rfl
  | cons piece rest => cases piece <;> rfl

/-- The expression of an answer is the one from its beginning on. -/
theorem expressionFrom_eq_expression (cs : List Char) :
    expressionFrom false false cs = expression? cs := by
  rw [expressionFrom, expression?, stretches?]
  congr 1
  funext pieces
  exact assemble_false pieces

/-! ### Cutting -/

/-- Puts code in front of a row of pieces that starts with code. -/
def prepend (front : List Char) : List Stretch → List Stretch
  | .code cs :: rest => .code (front ++ cs) :: rest
  | pieces => pieces

/-- What has been read of a piece of code only stands in front of the rest. -/
theorem stretchesFrom_code (acc cs : List Char) :
    stretchesFrom none acc cs = (stretchesFrom none [] cs).map (prepend acc.reverse) := by
  -- `acc` grows with every character of code, so it has to be general.
  induction cs generalizing acc with
  | nil => simp [stretchesFrom, prepend]
  | cons c rest ih =>
    rw [stretchesFrom, stretchesFrom]
    split
    · simp [prepend, Function.comp_def]
    · -- Both sides read on with `c` behind what has been read before.
      rw [ih (c :: acc), ih [c], Option.map_map]
      congr 1
      funext pieces
      cases pieces with
      | nil => rfl
      | cons piece rest => cases piece <;> simp [prepend]

/-- The first piece is code.  It is empty or starts where the text starts. -/
theorem stretchesFrom_head {cs : List Char} {pieces : List Stretch}
    (h : stretchesFrom none [] cs = some pieces) :
    ∃ d rest, pieces = .code d :: rest ∧ (d = [] ∨ d.head? = cs.head?) := by
  induction cs generalizing pieces with
  | nil =>
    simp only [stretchesFrom, Option.some.injEq] at h
    exact ⟨[], [], h.symm, Or.inl rfl⟩
  | cons c rest ih =>
    rw [stretchesFrom] at h
    split at h
    · obtain ⟨more, -, rfl⟩ := Option.map_eq_some_iff.mp h
      exact ⟨[], more, rfl, Or.inl rfl⟩
    · rw [stretchesFrom_code] at h
      obtain ⟨more, hmore, rfl⟩ := Option.map_eq_some_iff.mp h
      obtain ⟨d, tail, rfl, -⟩ := ih hmore
      exact ⟨c :: d, tail, rfl, Or.inr rfl⟩

/-- Characters that are no quotes are gathered as code. -/
theorem stretchesFrom_append {front : List Char}
    (hfront : ∀ c ∈ front, c ≠ '"' ∧ c ≠ '\x27') (acc cs : List Char) :
    stretchesFrom none acc (front ++ cs) = stretchesFrom none (front.reverse ++ acc) cs := by
  induction front generalizing acc with
  | nil => rfl
  | cons c front ih =>
    obtain ⟨hdouble, hsingle⟩ := hfront c (by simp)
    rw [List.cons_append, stretchesFrom, if_neg (by simp [hdouble, hsingle]),
      ih (fun d hd => hfront d (by simp [hd]))]
    simp

/-- **Code in front.** Where code without quotes is adapted by itself, whatever code comes after it,
    it is adapted in front of the rest of an answer. -/
theorem expressionFrom_append (front : List Char) {out cs : List Char}
    {opened inWord opened' inWord' : Bool} (hfront : ∀ c ∈ front, c ≠ '"' ∧ c ≠ '\x27')
    (hcode : ∀ followed d, (d = [] ∨ d.head? = cs.head?) →
      replaceWords inWord (replaceBrackets followed opened (front ++ d))
        = out ++ replaceWords inWord' (replaceBrackets followed opened' d)) :
    expressionFrom opened inWord (front ++ cs)
      = (expressionFrom opened' inWord' cs).map (out ++ ·) := by
  rw [expressionFrom, expressionFrom, stretchesFrom_append hfront, stretchesFrom_code]
  cases h : stretchesFrom none [] cs with
  | none => rfl
  | some pieces =>
    -- The first piece is code again, and `hcode` is about all code that can come there.
    obtain ⟨d, rest, rfl, hd⟩ := stretchesFrom_head h
    simp [prepend, assemble, hcode _ d hd]

/-! ### Characters -/

/-- The comma in front of the first item of a list. -/
def leadText (opened : Bool) : List Char := if opened then [',', ' '] else []

/-- A character of code that stays as it is and ends no blank row. -/
structure IsPlain (c : Char) : Prop where
  notBlank : isBlank c = false
  notQuote : c ≠ '"' ∧ c ≠ '\x27'
  notBracket : c ≠ '[' ∧ c ≠ ']'
  notKeyword : c ≠ 'T' ∧ c ≠ 'F' ∧ c ≠ 'N'

/-- Whether a character is plain can be decided. -/
instance (c : Char) : Decidable (IsPlain c) :=
  decidable_of_iff (isBlank c = false ∧ (c ≠ '"' ∧ c ≠ '\x27') ∧ (c ≠ '[' ∧ c ≠ ']')
      ∧ (c ≠ 'T' ∧ c ≠ 'F' ∧ c ≠ 'N'))
    ⟨fun ⟨hblank, hquote, hbracket, hkeyword⟩ => ⟨hblank, hquote, hbracket, hkeyword⟩,
      fun ⟨hblank, hquote, hbracket, hkeyword⟩ => ⟨hblank, hquote, hbracket, hkeyword⟩⟩

/-- No keyword begins with any other letter. -/
theorem replaceWords_cons {c : Char} (h : c ≠ 'T' ∧ c ≠ 'F' ∧ c ≠ 'N') (inWord : Bool)
    (cs : List Char) : replaceWords inWord (c :: cs) = c :: replaceWords (isWordChar c) cs := by
  obtain ⟨hT, hF, hN⟩ := h
  simp [replaceWords, hT, hF, hN]

/-- What stands in front of a list has no keyword in it. -/
theorem replaceWords_lead (opened : Bool) {inWord : Bool} (h : opened = false → inWord = false)
    (cs : List Char) :
    replaceWords inWord (leadText opened ++ cs) = leadText opened ++ replaceWords false cs := by
  cases opened with
  | false => rw [h rfl]; rfl
  | true =>
    show replaceWords inWord (',' :: ' ' :: cs) = _
    rw [replaceWords_cons (by decide), replaceWords_cons (by decide)]
    rfl

/-- A character that is neither blank nor a bracket gets the comma in front, and stays. -/
theorem replaceBrackets_full {c : Char} (hblank : isBlank c = false)
    (hbracket : c ≠ '[' ∧ c ≠ ']') (followed opened : Bool) (cs : List Char) :
    replaceBrackets followed opened (c :: cs)
      = leadText opened ++ c :: replaceBrackets followed false cs := by
  cases opened <;> simp [replaceBrackets, hblank, hbracket, leadText]

/-- The pass over a plain character. -/
theorem expressionFrom_plain {c : Char} (h : IsPlain c) (opened inWord : Bool) (cs : List Char) :
    expressionFrom opened inWord (c :: cs)
      = (expressionFrom false (isWordChar c) cs).map (leadText opened ++ [c] ++ ·) := by
  refine expressionFrom_append [c] (by simpa using h.notQuote) fun followed d _ => ?_
  rw [List.singleton_append, replaceBrackets_full h.notBlank h.notBracket]
  cases opened with
  | false => simp [leadText, replaceWords_cons h.notKeyword]
  | true => rw [replaceWords_lead true (by simp), replaceWords_cons h.notKeyword]; simp

/-- The pass over a blank. -/
theorem expressionFrom_blank {c : Char} (h : isBlank c = true) (opened inWord : Bool)
    (cs : List Char) :
    expressionFrom opened inWord (c :: cs) = (expressionFrom opened false cs).map ([c] ++ ·) := by
  have hchar : ∀ d : Char, isBlank d = false → c ≠ d := by
    rintro d hd rfl
    simp [hd] at h
  have hquote : c ≠ '"' ∧ c ≠ '\x27' := ⟨hchar _ (by decide), hchar _ (by decide)⟩
  have hbracket : c ≠ '[' ∧ c ≠ ']' := ⟨hchar _ (by decide), hchar _ (by decide)⟩
  have hkeyword : c ≠ 'T' ∧ c ≠ 'F' ∧ c ≠ 'N' :=
    ⟨hchar _ (by decide), hchar _ (by decide), hchar _ (by decide)⟩
  refine expressionFrom_append [c] (by simpa using hquote) fun followed d _ => ?_
  -- A blank leaves an open list open: its comma comes in front of the next item.
  have hstays : replaceBrackets followed opened (c :: d)
      = c :: replaceBrackets followed opened d := by
    simp [replaceBrackets, h, hbracket]
  rw [List.singleton_append, hstays, replaceWords_cons hkeyword, Text.isWordChar_of_isBlank h]
  rfl

/-- The pass over a row of blanks. -/
theorem expressionFrom_gap {gap : List Char} (h : Text.IsGap gap) (opened : Bool)
    (cs : List Char) :
    expressionFrom opened false (gap ++ cs) = (expressionFrom opened false cs).map (gap ++ ·) := by
  induction gap with
  | nil => simp
  | cons c gap ih =>
    rw [List.cons_append, expressionFrom_blank (h c (by simp)),
      ih (fun d hd => h d (by simp [hd])), Option.map_map]
    rfl

/-- The pass over an opening bracket. -/
theorem expressionFrom_opening (opened inWord : Bool) (cs : List Char) :
    expressionFrom opened inWord ('[' :: cs)
      = (expressionFrom true false cs).map (leadText opened ++ listOpening ++ ·) := by
  refine expressionFrom_append ['['] (by simp) fun followed d _ => ?_
  -- The text of an open list holds no keyword, so that the second step leaves it as it is.
  have hopening (inWord : Bool) (cs : List Char) :
      replaceWords inWord (listOpening ++ cs) = listOpening ++ replaceWords false cs := by
    show replaceWords inWord ('s' :: 'e' :: 'q' :: '(' :: '(' :: ')' :: cs) = _
    simp only [replaceWords_cons (c := 's') (by decide), replaceWords_cons (c := 'e') (by decide),
      replaceWords_cons (c := 'q') (by decide), replaceWords_cons (c := '(') (by decide),
      replaceWords_cons (c := ')') (by decide)]
    rfl
  have hbracket : replaceBrackets followed opened ('[' :: d)
      = leadText opened ++ (listOpening ++ replaceBrackets followed true d) := by
    cases opened <;> simp [replaceBrackets, leadText, show isBlank '[' = false by decide]
  rw [List.singleton_append, hbracket]
  cases opened with
  | false => simp [leadText, hopening]
  | true => rw [replaceWords_lead true (by simp), hopening]; simp

/-- The pass over a closing bracket. -/
theorem expressionFrom_closing (opened inWord : Bool) (cs : List Char) :
    expressionFrom opened inWord (']' :: cs)
      = (expressionFrom false false cs).map ([')'] ++ ·) := by
  refine expressionFrom_append [']'] (by simp) fun followed d _ => ?_
  have hbracket : replaceBrackets followed opened (']' :: d)
      = ')' :: replaceBrackets followed false d := by
    simp [replaceBrackets, show isBlank ']' = false by decide]
  rw [List.singleton_append, hbracket, replaceWords_cons (by decide)]
  rfl

/-- The pass over digits. -/
theorem expressionFrom_digits {ds : List Char} (hds : ∀ c ∈ ds, c.isDigit = true) (hne : ds ≠ [])
    (opened inWord : Bool) (cs : List Char) :
    expressionFrom opened inWord (ds ++ cs)
      = (expressionFrom false true cs).map (leadText opened ++ ds ++ ·) := by
  induction ds generalizing opened inWord with
  | nil => exact absurd rfl hne
  | cons d ds ih =>
    have hd := hds d (by simp)
    -- A digit is none of the characters with a meaning of their own.
    have hplain : IsPlain d :=
      ⟨Text.isBlank_of_isDigit hd, by constructor <;> (rintro rfl; simp at hd),
        by constructor <;> (rintro rfl; simp at hd),
        by refine ⟨?_, ?_, ?_⟩ <;> (rintro rfl; simp at hd)⟩
    have hword : isWordChar d = true := Text.isWordChar_of_isDigit hd
    rw [List.cons_append, expressionFrom_plain hplain, hword]
    cases ds with
    | nil => rfl
    | cons e ds =>
      rw [ih (fun c hc => hds c (by simp [hc])) (by simp), Option.map_map]
      congr 1
      funext text
      simp [leadText]

/-! ### Keywords -/

/-- What may follow a word: nothing, a blank, a comma or a closing bracket. -/
def IsDelimited (cs : List Char) : Prop :=
  ∀ c, cs.head? = some c → isBlank c = true ∨ c = ',' ∨ c = ']' ∨ c = ')'

/-- What delimits a literal ends a word, also when brackets have been replaced. -/
theorem wordEnds_of_isDelimited {d : List Char} (followed : Bool) (h : IsDelimited d) :
    wordEnds (replaceBrackets followed false d) = true := by
  cases d with
  | nil => rfl
  | cons c d =>
    rcases h c rfl with hblank | rfl | rfl | rfl
    · -- A blank stays, and ends the word.
      have hopen : c ≠ '[' := by rintro rfl; exact absurd hblank (by decide)
      have hclose : c ≠ ']' := by rintro rfl; exact absurd hblank (by decide)
      simp [replaceBrackets, hopen, hclose, wordEnds, Text.isWordChar_of_isBlank hblank]
    all_goals rfl

/-- The three keywords with the constants that they name. -/
def keywords : List (List Char × List Char) :=
  [("True".toList, "true".toList), ("False".toList, "false".toList), ("None".toList, "()".toList)]

/-- A keyword becomes its constant where the word ends. -/
theorem replaceWords_keyword {word constant : List Char} (h : (word, constant) ∈ keywords)
    {cs : List Char} (hcs : wordEnds cs = true) :
    replaceWords false (word ++ cs) = constant ++ replaceWords true cs := by
  simp only [keywords, List.mem_cons, Prod.mk.injEq, List.not_mem_nil, or_false] at h
  rcases h with ⟨rfl, rfl⟩ | ⟨rfl, rfl⟩ | ⟨rfl, rfl⟩
  · show replaceWords false ('T' :: 'r' :: 'u' :: 'e' :: cs) = _
    simp [replaceWords, hcs]
  · show replaceWords false ('F' :: 'a' :: 'l' :: 's' :: 'e' :: cs) = _
    simp [replaceWords, hcs]
  · show replaceWords false ('N' :: 'o' :: 'n' :: 'e' :: cs) = _
    simp [replaceWords, hcs]

/-- A character stays, unless a keyword that is a word of its own begins with it. -/
theorem replaceWords_stays {inWord : Bool} {c : Char} {cs : List Char}
    (h : ∀ pair ∈ keywords, ∀ rest, c :: cs = pair.1 ++ rest
      → (!inWord && wordEnds rest) = false) :
    replaceWords inWord (c :: cs) = c :: replaceWords (isWordChar c) cs := by
  have hletter : ∀ d ∈ ['T', 'F', 'N'], isWordChar d = true :=
    List.all_iff_forall_prop.mp (by decide)
  have hno (pair : List Char × List Char) (hpair : pair ∈ keywords) {rest : List Char}
      (hcs : c :: cs = pair.1 ++ rest) : ¬ (!inWord && wordEnds rest) = true :=
    Bool.eq_false_iff.mp (h pair hpair rest hcs)
  -- Each keyword has a branch of its own, which `h` rules out; the last branch is that of all
  -- others.
  rw [replaceWords.eq_def]
  split
  case h_1 hcs => cases hcs
  case h_2 hcs =>
    rw [if_neg (hno ("True".toList, "true".toList) (by decide) hcs)]
    cases hcs
    rw [hletter 'T' (by simp)]
  case h_3 hcs =>
    rw [if_neg (hno ("False".toList, "false".toList) (by decide) hcs)]
    cases hcs
    rw [hletter 'F' (by simp)]
  case h_4 hcs =>
    rw [if_neg (hno ("None".toList, "()".toList) (by decide) hcs)]
    cases hcs
    rw [hletter 'N' (by simp)]
  case h_5 hcs =>
    cases hcs
    rfl

/-- Inside a word there is no keyword. -/
theorem replaceWords_inWord (c : Char) (cs : List Char) :
    replaceWords true (c :: cs) = c :: replaceWords (isWordChar c) cs :=
  replaceWords_stays fun _ _ _ _ => rfl

/-- Replacing brackets leaves keywords as they are. -/
theorem replaceBrackets_keyword {word constant : List Char} (h : (word, constant) ∈ keywords)
    (followed opened : Bool) (cs : List Char) :
    replaceBrackets followed opened (word ++ cs)
      = leadText opened ++ (word ++ replaceBrackets followed false cs) := by
  -- No letter of a keyword is a blank or a bracket.
  have hletter : ∀ c ∈ ['T', 'r', 'u', 'e', 'F', 'a', 'l', 's', 'N', 'o', 'n'],
      isBlank c = false ∧ c ≠ '[' ∧ c ≠ ']' := List.all_iff_forall_prop.mp (by decide)
  have hstep (c : Char) (hc : c ∈ ['T', 'r', 'u', 'e', 'F', 'a', 'l', 's', 'N', 'o', 'n'])
      (opened : Bool) (cs : List Char) := replaceBrackets_full (hletter c hc).1 (hletter c hc).2
        followed opened cs
  simp only [keywords, List.mem_cons, Prod.mk.injEq, List.not_mem_nil, or_false] at h
  rcases h with ⟨rfl, rfl⟩ | ⟨rfl, rfl⟩ | ⟨rfl, rfl⟩
  · show replaceBrackets followed opened ('T' :: 'r' :: 'u' :: 'e' :: cs) = _
    rw [hstep 'T' (by decide), hstep 'r' (by decide), hstep 'u' (by decide), hstep 'e' (by decide)]
    rfl
  · show replaceBrackets followed opened ('F' :: 'a' :: 'l' :: 's' :: 'e' :: cs) = _
    rw [hstep 'F' (by decide), hstep 'a' (by decide), hstep 'l' (by decide), hstep 's' (by decide),
      hstep 'e' (by decide)]
    rfl
  · show replaceBrackets followed opened ('N' :: 'o' :: 'n' :: 'e' :: cs) = _
    rw [hstep 'N' (by decide), hstep 'o' (by decide), hstep 'n' (by decide), hstep 'e' (by decide)]
    rfl

/-- The pass over a keyword. -/
theorem expressionFrom_keyword {word constant : List Char} (h : (word, constant) ∈ keywords)
    (opened : Bool) {cs : List Char} (hcs : IsDelimited cs) :
    expressionFrom opened false (word ++ cs)
      = (expressionFrom false true cs).map (leadText opened ++ constant ++ ·) := by
  have hquote : ∀ pair ∈ keywords, ∀ c ∈ pair.1, c ≠ '"' ∧ c ≠ '\x27' := by
    simp [keywords]
  refine expressionFrom_append word (hquote _ h) fun followed d hd => ?_
  -- The code behind the word starts like `cs`, if there is any, so the word ends there too.
  have hends : wordEnds (replaceBrackets followed false d) = true := by
    apply wordEnds_of_isDelimited
    rcases hd with rfl | hd
    · intro c hc
      cases hc
    · intro c hc
      exact hcs c (hd ▸ hc)
  rw [replaceBrackets_keyword h, replaceWords_lead opened (by simp), replaceWords_keyword h hends]
  simp

/-- Behind a word that ends, it no longer matters that there was a word. -/
theorem expressionFrom_inWord {cs : List Char} (h : IsDelimited cs) (opened inWord : Bool) :
    expressionFrom opened inWord cs = expressionFrom opened false cs := by
  have hcomma : IsPlain ',' := by decide
  have hclosing : IsPlain ')' := by decide
  cases cs with
  | nil => cases opened <;> rfl
  | cons c cs =>
    rcases h c rfl with hblank | rfl | rfl | rfl
    · rw [expressionFrom_blank hblank, expressionFrom_blank hblank]
    · rw [expressionFrom_plain hcomma, expressionFrom_plain hcomma]
    · rw [expressionFrom_closing, expressionFrom_closing]
    · rw [expressionFrom_plain hclosing, expressionFrom_plain hclosing]

/-! ### Strings -/

/-- The characters of a string between quotes of one kind; backslashes and these quotes get a
    backslash. -/
def escapeFor (quote : Char) (cs : List Char) : List Char :=
  cs.flatMap fun c => if c == '\\' || c == quote then ['\\', c] else [c]

/-- Double and single quotes. -/
def IsQuote (quote : Char) : Prop := quote = '"' ∨ quote = '\x27'

/-- Between quotes of either kind a string is read as it is written between double quotes. -/
theorem stretchesFrom_escapeFor {quote : Char} (hquote : IsQuote quote) (s acc cs : List Char) :
    stretchesFrom (some quote) acc (escapeFor quote s ++ quote :: cs)
      = (stretchesFrom none [] cs).map (.literal (acc.reverse ++ Value.escape s) :: ·) := by
  -- A backslash, the quote of the string and the other quote are written in ways of their own.
  have hbackslash : quote ≠ '\\' := by rcases hquote with rfl | rfl <;> decide
  induction s generalizing acc with
  | nil => simp [escapeFor, Value.escape, stretchesFrom, hbackslash]
  | cons c s ih =>
    rw [escapeFor, List.flatMap_cons, List.append_assoc, ← escapeFor]
    by_cases hc : c = '\\'
    · subst hc
      simp [stretchesFrom, ih, Value.escape]
    · rcases hquote with rfl | rfl
      · by_cases hd : c = '"'
        · subst hd
          simp [stretchesFrom, ih, Value.escape]
        · simp [stretchesFrom, ih, Value.escape, hc, hd]
      · by_cases hs : c = '\x27'
        · subst hs
          simp [stretchesFrom, ih, Value.escape]
        · by_cases hd : c = '"'
          · subst hd
            simp [stretchesFrom, ih, Value.escape]
          · simp [stretchesFrom, ih, Value.escape, hc, hd, hs]

/-- The pass over a string. -/
theorem expressionFrom_quoted {quote : Char} (hquote : IsQuote quote) (opened : Bool)
    (s cs : List Char) :
    expressionFrom opened false (quote :: escapeFor quote s ++ quote :: cs)
      = (expressionFrom false false cs).map
          (leadText opened ++ ('"' :: Value.escape s ++ ['"']) ++ ·) := by
  -- The string becomes a literal, and the code in front of it is empty.
  have hcut : stretchesFrom none [] (quote :: escapeFor quote s ++ quote :: cs)
      = (stretchesFrom none [] cs).map (.code [] :: .literal (Value.escape s) :: ·) := by
    have hopen : (quote == '"' || quote == '\x27') = true := by
      rcases hquote with rfl | rfl <;> rfl
    rw [List.cons_append, stretchesFrom, if_pos hopen, stretchesFrom_escapeFor hquote]
    simp [Function.comp_def]
  rw [expressionFrom, expressionFrom, hcut, Option.map_map, Option.map_map]
  congr 1
  funext pieces
  rw [Function.comp, Function.comp, assemble_false]
  cases opened <;>
    simp [assemble, joined, replaceBrackets, leadText, replaceWords, replaceWords_cons]

end Questionnaire.Answer
