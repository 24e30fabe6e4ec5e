import Questionnaire.Expression.Token
import Questionnaire.Proofs.Except
import Questionnaire.Proofs.Number

namespace Questionnaire.Expression

open Questionnaire.Text (isBlank)

/-!
# Tokens from a place on

* `tokensOf` — the tokens of a text.
* `tokensOf_blank`, `tokensOf_constant`, `tokensOf_quoted` — the first piece of a text gives its token,
  whatever text comes after it.
* `constantOf_decimal` — the digits of a number in the range of 64 bits are that number.
-/

/-- The tokens of a text. -/
def tokensOf (cs : List Char) : Except Failure (List Token) := do tokens (← lexemes cs)

/-- What the first piece `piece` of a text leaves for the tokens of the rest. -/
theorem tokensOf_eq_of_piece (token : Option Token) {cs rest : List Char} {piece : Lexeme}
    {ts : List Token} (hcs : lexemes cs = (piece :: ·) <$> lexemes rest)
    (hpiece : ∀ following, lexemes rest = .ok following → tokenAt piece following = .ok (token, 0))
    (hrest : tokensOf rest = .ok ts) : tokensOf cs = .ok (token.toList ++ ts) := by
  obtain ⟨following, hfollowing, htokens⟩ := Except.bind_eq_ok.mp hrest
  -- The number of pieces to skip is 0, as the piece stands by itself.
  replace htokens : tokensFrom 0 following = .ok ts := htokens
  rw [tokensOf, hcs, hfollowing]
  show tokensFrom 0 (piece :: following) = _
  rw [tokensFrom, hpiece following hfollowing]
  cases token with
  | none => exact htokens
  | some token =>
    simp only [htokens]
    rfl

/-! ### Blanks and marks -/

/-- A blank is no mark. -/
theorem isMark_of_isBlank {c : Char} (h : isBlank c = true) : isMark c = false := by
  rw [← Bool.not_eq_true]
  intro hmark
  have hblank : ∀ d ∈ "+-*/%^(),;=!><&|".toList, isBlank d = false :=
    List.all_iff_forall_prop.mp (by decide)
  rw [hblank c (List.contains_iff_mem.mp hmark)] at h
  cases h

/-- A slash is a mark; in front of any other character there is no comment. -/
theorem lexemesFrom_code {c : Char} (hslash : c ≠ '/') (acc rest : List Char) :
    lexemesFrom .code acc (c :: rest)
      = if c == '"' then (flush acc ·) <$> lexemesFrom (.string []) [] rest
        else if isMark c then (flush acc <| .mark c :: ·) <$> lexemesFrom .code [] rest
        else if isBlank c then (flush acc <| .blank :: ·) <$> lexemesFrom .code [] rest
        else lexemesFrom .code (c :: acc) rest := by
  rw [lexemesFrom]
  · rintro rest rfl
    exact absurd rfl hslash
  · rintro rest rfl
    exact absurd rfl hslash

/-- A blank is a piece of its own. -/
theorem lexemes_blank {c : Char} (h : isBlank c = true) (rest : List Char) :
    lexemes (c :: rest) = (.blank :: ·) <$> lexemes rest := by
  have hslash : c ≠ '/' := by rintro rfl; exact absurd h (by decide)
  have hquote : c ≠ '"' := by rintro rfl; exact absurd h (by decide)
  rw [lexemes, lexemesFrom_code hslash, if_neg (by simpa using hquote),
    if_neg (by simp [isMark_of_isBlank h]), if_pos h]
  rfl

/-- A blank in front adds no token. -/
theorem tokensOf_blank {c : Char} (h : isBlank c = true) {rest : List Char} {ts : List Token}
    (hrest : tokensOf rest = .ok ts) : tokensOf (c :: rest) = .ok ts :=
  tokensOf_eq_of_piece none (lexemes_blank h rest) (fun _ _ => rfl) hrest

/-- A gap in front adds no token. -/
theorem tokensOf_gap {gap : List Char} (h : Text.IsGap gap) {rest : List Char} {ts : List Token}
    (hrest : tokensOf rest = .ok ts) : tokensOf (gap ++ rest) = .ok ts := by
  induction gap with
  | nil => exact hrest
  | cons c gap ih => exact tokensOf_blank (h c (by simp)) (ih fun d hd => h d (by simp [hd]))

/-- A mark is a piece of its own, unless a comment may begin with it. -/
theorem lexemes_mark {c : Char} (hslash : c ≠ '/') (h : isMark c = true) (rest : List Char) :
    lexemes (c :: rest) = (.mark c :: ·) <$> lexemes rest := by
  have hquote : c ≠ '"' := by rintro rfl; exact absurd h (by decide)
  rw [lexemes, lexemesFrom_code hslash, if_neg (by simpa using hquote), if_pos h]
  rfl

/-- A round bracket opens. -/
theorem tokensOf_opening {rest : List Char} {ts : List Token} (hrest : tokensOf rest = .ok ts) :
    tokensOf ('(' :: rest) = .ok (.opening :: ts) :=
  tokensOf_eq_of_piece (some .opening) (lexemes_mark (by decide) rfl rest)
    (fun _ _ => rfl) hrest

/-- A round bracket closes. -/
theorem tokensOf_closing {rest : List Char} {ts : List Token} (hrest : tokensOf rest = .ok ts) :
    tokensOf (')' :: rest) = .ok (.closing :: ts) :=
  tokensOf_eq_of_piece (some .closing) (lexemes_mark (by decide) rfl rest)
    (fun _ _ => rfl) hrest

/-- A comma separates. -/
theorem tokensOf_comma {rest : List Char} {ts : List Token} (hrest : tokensOf rest = .ok ts) :
    tokensOf (',' :: rest) = .ok (.comma :: ts) :=
  tokensOf_eq_of_piece (some .comma) (lexemes_mark (by decide) rfl rest)
    (fun _ _ => rfl) hrest

/-! ### Words -/

/-- A character of a word: neither blank nor mark nor quote. -/
structure IsLetter (c : Char) : Prop where
  notBlank : isBlank c = false
  notMark : isMark c = false
  notQuote : c ≠ '"'

/-- Whether a character belongs to words can be decided. -/
instance (c : Char) : Decidable (IsLetter c) :=
  decidable_of_iff (isBlank c = false ∧ isMark c = false ∧ c ≠ '"')
    ⟨fun ⟨hblank, hmark, hquote⟩ => ⟨hblank, hmark, hquote⟩,
      fun ⟨hblank, hmark, hquote⟩ => ⟨hblank, hmark, hquote⟩⟩

/-- What may follow a word in an expression: nothing, a blank or a parenthesis or comma. -/
def EndsWord (cs : List Char) : Prop :=
  ∀ c, cs.head? = some c → isBlank c = true ∨ c ∈ [',', '(', ')']

/-- The characters of a word are gathered. -/
theorem lexemesFrom_word {ds : List Char} (hds : ∀ c ∈ ds, IsLetter c) (acc cs : List Char) :
    lexemesFrom .code acc (ds ++ cs) = lexemesFrom .code (ds.reverse ++ acc) cs := by
  induction ds generalizing acc with
  | nil => rfl
  | cons d ds ih =>
    have hd := hds d (by simp)
    have hslash : d ≠ '/' := by rintro rfl; exact absurd hd.notMark (by decide)
    rw [List.cons_append, lexemesFrom_code hslash, if_neg (by simpa using hd.notQuote),
      if_neg (by simp [hd.notMark]), if_neg (by simp [hd.notBlank]),
      ih (fun c hc => hds c (by simp [hc]))]
    simp

/-- The pending word ends in front of such a rest. -/
theorem lexemesFrom_endsWord {cs : List Char} (h : EndsWord cs) (acc : List Char) :
    lexemesFrom .code acc cs = (flush acc ·) <$> lexemes cs := by
  cases cs with
  | nil => rfl
  | cons c cs =>
    rcases h c rfl with hblank | hmark
    · have hslash : c ≠ '/' := by rintro rfl; exact absurd hblank (by decide)
      have hquote : c ≠ '"' := by rintro rfl; exact absurd hblank (by decide)
      rw [lexemes_blank hblank, lexemesFrom_code hslash, if_neg (by simpa using hquote),
        if_neg (by simp [isMark_of_isBlank hblank]), if_pos hblank, Functor.map_map]
      rfl
    · have hmarks : ∀ d ∈ [',', '(', ')'], d ≠ '/' ∧ d ≠ '"' ∧ isMark d = true :=
        List.all_iff_forall_prop.mp (by decide)
      obtain ⟨hslash, hquote, hc⟩ := hmarks c hmark
      rw [lexemes_mark hslash hc, lexemesFrom_code hslash, if_neg (by simpa using hquote),
        if_pos hc, Functor.map_map]
      rfl

/-- A word is one piece, up to a character that ends it. -/
theorem lexemes_word {ds : List Char} (hds : ∀ c ∈ ds, IsLetter c) (hne : ds ≠ [])
    {cs : List Char} (hcs : EndsWord cs) :
    lexemes (ds ++ cs) = (.word ds :: ·) <$> lexemes cs := by
  rw [lexemes, lexemesFrom_word hds, lexemesFrom_endsWord hcs]
  simp [flush, hne]

/-- A word that stands for a constant is not empty. -/
theorem ne_nil_of_constantOf {ds : List Char} {value : Value} (h : constantOf? ds = some value) :
    ds ≠ [] := by
  rintro rfl
  rw [show constantOf? [] = none from rfl] at h
  cases h

/-- A word that writes a constant is that constant. -/
theorem tokensOf_constant {ds : List Char} {value : Value} (hds : ∀ c ∈ ds, IsLetter c)
    (hvalue : constantOf? ds = some value) {cs : List Char} (hcs : EndsWord cs) {ts : List Token}
    (hrest : tokensOf cs = .ok ts) : tokensOf (ds ++ cs) = .ok (.constant value :: ts) := by
  refine tokensOf_eq_of_piece (some (.constant value))
    (lexemes_word hds (ne_nil_of_constantOf hvalue) hcs) ?_ hrest
  intro following _
  simp [tokenAt, wordToken, hvalue]

/-- The text of an opened list is a name and two parentheses, of which the second one closes. -/
theorem tokensOf_listOpening {cs : List Char} {ts : List Token} (hrest : tokensOf cs = .ok ts) :
    tokensOf (['s', 'e', 'q', '(', '(', ')'] ++ cs)
      = .ok ([.name "seq", .opening, .opening, .closing] ++ ts) := by
  -- From the end to the beginning: the parentheses, and then the name in front of them.
  have hparens : tokensOf ('(' :: '(' :: ')' :: cs)
      = .ok ([.opening, .opening, .closing] ++ ts) :=
    tokensOf_opening (tokensOf_opening (tokensOf_closing hrest))
  have hds : ∀ c ∈ ['s', 'e', 'q'], IsLetter c := List.all_iff_forall_prop.mp (by decide)
  have hcs : EndsWord ('(' :: '(' :: ')' :: cs) := by
    rintro c ⟨⟩
    simp
  have hname : constantOf? ['s', 'e', 'q'] = none := rfl
  refine tokensOf_eq_of_piece (some (.name "seq")) (lexemes_word hds (by simp) hcs) ?_
    hparens
  intro following hfollowing
  -- The parenthesis behind the word is no sign of an exponent.
  obtain ⟨more, -, rfl⟩ :=
    Except.map_eq_ok.mp ((lexemes_mark (by decide) rfl _).symm.trans hfollowing)
  have hexponent : splitExponent? ['s', 'e', 'q'] (.mark '(' :: more) = none := by
    rcases more with - | ⟨⟨⟩, more⟩ <;> rfl
  simp [tokenAt, wordToken, hname, hexponent]

/-! ### Strings -/

/-- A string between double quotes is read up to its closing quote. -/
theorem lexemesFrom_escape (s acc cs : List Char) :
    lexemesFrom (.string acc) [] (Value.escape s ++ '"' :: cs)
      = (.quoted (String.ofList (acc.reverse ++ s)) :: ·) <$> lexemes cs := by
  induction s generalizing acc with
  | nil => simp [Value.escape, lexemesFrom, lexemes]
  | cons c s ih =>
    rw [Value.escape]
    split
    · have hc : (c == '"' || c == '\\') = true := by assumption
      -- The backslash is dropped, and the character behind it is taken as it is.
      rw [List.cons_append, List.cons_append, lexemesFrom, if_pos hc, ih, List.reverse_cons,
        List.append_assoc, List.singleton_append]
    · have hc : c ≠ '"' ∧ c ≠ '\\' := by simp_all
      rw [List.cons_append, lexemesFrom, if_neg (by simpa using hc.1), if_neg (by simpa using hc.2),
        ih, List.reverse_cons, List.append_assoc, List.singleton_append]
      rintro c rest rfl
      exact absurd rfl hc.2

/-- A string in its written form is one token. -/
theorem tokensOf_quoted (s : String) {cs : List Char} {ts : List Token}
    (hrest : tokensOf cs = .ok ts) :
    tokensOf (Value.writtenStr s ++ cs) = .ok (.constant (.str s) :: ts) := by
  have hlexemes : lexemes (Value.writtenStr s ++ cs) = (.quoted s :: ·) <$> lexemes cs := by
    have hread := lexemesFrom_escape s.toList [] cs
    show lexemes ('"' :: ((Value.escape s.toList ++ ['"']) ++ cs)) = _
    rw [List.append_assoc, List.singleton_append, lexemes, lexemesFrom_code (by decide),
      if_pos (by rfl), hread]
    simp [flush]
  exact tokensOf_eq_of_piece (some (.constant (.str s))) hlexemes (fun _ _ => rfl) hrest

/-! ### Numbers -/

/-- A minus sign, in front of a piece that does not make it part of an assignment. -/
theorem tokensOf_minus {piece : Lexeme} (hpiece : follows '=' [piece] = false)
    {cs rest : List Char} (hcs : lexemes cs = (piece :: ·) <$> lexemes rest) {ts : List Token}
    (hrest : tokensOf cs = .ok ts) : tokensOf ('-' :: cs) = .ok (.minus :: ts) := by
  refine tokensOf_eq_of_piece (some .minus) (lexemes_mark (by decide) rfl cs) ?_ hrest
  intro following hfollowing
  obtain ⟨more, -, rfl⟩ := Except.map_eq_ok.mp (hcs.symm.trans hfollowing)
  have hfollows : follows '=' (piece :: more) = false := by
    cases piece <;> exact hpiece
  simp [tokenAt, markToken, withEquals, hfollows]

/-- A minus in front of a constant is a token of its own. -/
theorem tokensOf_negative {gap ds : List Char} {value : Value} (hgap : Text.IsGap gap)
    (hds : ∀ c ∈ ds, IsLetter c) (hvalue : constantOf? ds = some value) {cs : List Char}
    (hcs : EndsWord cs) {ts : List Token} (hrest : tokensOf cs = .ok ts) :
    tokensOf ('-' :: (gap ++ (ds ++ cs))) = .ok (.minus :: .constant value :: ts) := by
  have hconstant := tokensOf_constant hds hvalue hcs hrest
  -- What comes behind the sign is a word or a blank, never the sign of an assignment.
  cases gap with
  | nil => exact tokensOf_minus rfl (lexemes_word hds (ne_nil_of_constantOf hvalue) hcs) hconstant
  | cons c gap =>
    have hblank := lexemes_blank (hgap c (by simp)) (gap ++ (ds ++ cs))
    exact tokensOf_minus rfl hblank (tokensOf_gap hgap hconstant)

/-- A decimal stands for its integer, if this is not too large. -/
theorem constantOf_decimal {n : Nat} (h : n < Number.twoTo 63) :
    constantOf? (Text.decimal n) = some (.int (Int64.ofInt n)) := by
  have hdigit : ∀ c ∈ Text.decimal n, c.isDigit = true := Text.decimal_isDigit n
  have hread : Number.readInt? (Text.decimal n) = some (Int64.ofInt n) := by
    have hrange := Number.int64OfInt_eq (i := n) h
    -- A digit is no sign, so the whole text is the number.
    simp [Number.readInt?, Number.readIntIn?, Number.splitSign_decimal, Text.readDigits_decimal,
      hrange.1]
  unfold constantOf?
  split
  · -- Digits do not begin like a number to base 16.
    rename_i rest hds
    rw [hds] at hdigit
    exact absurd (hdigit 'x' (by simp)) (by decide)
  · rw [hread]

/-- A digit belongs to words. -/
theorem isLetter_of_isDigit {c : Char} (h : c.isDigit = true) : IsLetter c := by
  have hmarks : ∀ d ∈ "+-*/%^(),;=!><&|".toList, d.isDigit = false :=
    List.all_iff_forall_prop.mp (by decide)
  refine ⟨Text.isBlank_of_isDigit h, ?_, by rintro rfl; exact absurd h (by decide)⟩
  rw [← Bool.not_eq_true]
  intro hmark
  rw [hmarks c (List.contains_iff_mem.mp hmark)] at h
  cases h

end Questionnaire.Expression
