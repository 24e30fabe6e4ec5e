import Mathlib.Data.List.Chain
import Questionnaire.Proofs.Expression.Level
import Questionnaire.Proofs.Expression.Token

namespace Questionnaire.Expression

/-!
# Signs of a text

The tokens that change the open levels are single characters: whatever else the characters of an
expression combine to, every bracket and separator outside of strings is a token of its own, as
long as there are no comments.

* `Sign.ofChar?`, `Level.behind` — the sign that a character is, and the levels open behind a text.
* `signs_of_tokens` — tokens have the signs of the pieces they are made from.
* `signs_of_code`, `exists_of_quoted` — pieces have the signs of the characters outside of strings.
-/

/-- The sign that a character is, outside of strings.  A list has a comma in front of its first
    item. -/
def Sign.ofChar? : Char → Option Sign
  | '(' => some (.opening .fresh)
  | '[' => some (.opening .listed)
  | ')' | ']' => some .closing
  | ',' => some .comma
  | ';' => some .semicolon
  | _ => none

/-- The sign that a piece is. -/
def Lexeme.sign? : Lexeme → Option Sign
  | .mark c => Sign.ofChar? c
  | _ => none

/-- The characters that are signs. -/
def signCharacters : List Char := ['(', '[', ')', ']', ',', ';']

/-- The characters that are no signs are those outside the list. -/
theorem ofChar_eq_none_iff {c : Char} : Sign.ofChar? c = none ↔ c ∉ signCharacters := by
  unfold Sign.ofChar?
  split
  case h_7 => simp_all [signCharacters]
  all_goals exact iff_of_false (by simp) (by decide)

/-- Apart from the brackets of lists, all signs are marks. -/
theorem ofChar_eq_none {c : Char} (hmark : isMark c = false) (hbracket : c ≠ '[' ∧ c ≠ ']') :
    Sign.ofChar? c = none := by
  have hmarks : ∀ d ∈ signCharacters, isMark d = true ∨ d = '[' ∨ d = ']' :=
    List.all_iff_forall_prop.mp (by decide)
  apply ofChar_eq_none_iff.mpr
  intro hmem
  rcases hmarks c hmem with h | rfl | rfl
  · rw [hmark] at h
    cases h
  · exact hbracket.1 rfl
  · exact hbracket.2 rfl

/-- A blank is no sign. -/
theorem ofChar_of_isBlank {c : Char} (h : Text.isBlank c = true) : Sign.ofChar? c = none := by
  apply ofChar_eq_none (isMark_of_isBlank h)
  constructor <;> (rintro rfl; exact absurd h (by decide))

/-- The open levels behind characters that stand outside of strings. -/
def Level.behind (levels : List Level) (cs : List Char) : Option (List Level) :=
  Level.run levels (cs.filterMap Sign.ofChar?)

/-- Levels are followed from left to right, so a text can be read in two parts. -/
theorem Level.behind_append (levels : List Level) (front back : List Char) :
    Level.behind levels (front ++ back)
      = (Level.behind levels front).bind (Level.behind · back) := by
  rw [Level.behind, List.filterMap_append, Level.run_append]
  rfl

/-- A character that is no sign does not change levels. -/
theorem Level.behind_of_none {c : Char} (h : Sign.ofChar? c = none) (levels : List Level)
    (cs : List Char) : Level.behind levels (c :: cs) = Level.behind levels cs := by
  rw [Level.behind, List.filterMap_cons_none h]
  rfl

/-- A sign changes levels by its step. -/
theorem Level.behind_of_some {c : Char} {sign : Sign} (h : Sign.ofChar? c = some sign)
    (levels : List Level) (cs : List Char) :
    Level.behind levels (c :: cs) = (sign.step levels).bind (Level.behind · cs) := by
  rw [Level.behind, List.filterMap_cons_some h]
  rfl

/-- The outermost level is never closed. -/
theorem Level.behind_ne_nil {cs : List Char} {levels levels' : List Level}
    (h : Level.behind levels cs = some levels') (hne : levels ≠ []) : levels' ≠ [] := by
  induction cs generalizing levels with
  | nil =>
    cases h
    exact hne
  | cons c cs ih =>
    cases hsign : Sign.ofChar? c with
    | none => exact ih (Level.behind_of_none hsign levels cs ▸ h) hne
    | some sign =>
      rw [Level.behind_of_some hsign] at h
      obtain ⟨between, hstep, h⟩ := Option.bind_eq_some_iff.mp h
      exact ih h (Sign.step_ne_nil hstep hne)

/-! ### Tokens of pieces -/

/-- What a mark has to be followed by is a mark. -/
theorem exists_of_follows {c : Char} {following : List Lexeme} (h : follows c following = true) :
    ∃ rest, following = .mark c :: rest := by
  cases following with
  | nil => cases h
  | cons piece rest =>
    cases piece with
    | mark d => exact ⟨rest, by rw [beq_iff_eq.mp h]⟩
    | _ => cases h

/-- The token with the pieces it is made from: the first one has its sign, and the others have
    none. -/
structure KeepsSign (piece : Lexeme) (following : List Lexeme) (token : Option Token) (n : Nat) :
    Prop where
  first : token.bind Token.sign? = piece.sign?
  others : ∀ p ∈ following.take n, p.sign? = none

/-- A token of one piece only has to have the sign of that piece. -/
theorem KeepsSign.alone {piece : Lexeme} {following : List Lexeme} {token : Option Token}
    (h : token.bind Token.sign? = piece.sign?) : KeepsSign piece following token 0 :=
  ⟨h, by simp⟩

/-- A mark that is no sign keeps having none, with an equals sign behind it or without. -/
theorem keepsSign_withEquals {c : Char} {alone combined : Token} (hc : Sign.ofChar? c = none)
    (halone : alone.sign? = none) (hcombined : combined.sign? = none) (following : List Lexeme) :
    KeepsSign (.mark c) following (some (withEquals alone combined following).1)
      (withEquals alone combined following).2 := by
  rw [withEquals]
  split
  · rename_i hfollows
    obtain ⟨rest, rfl⟩ := exists_of_follows hfollows
    exact ⟨hcombined.trans hc.symm, by simp [Lexeme.sign?, Sign.ofChar?]⟩
  · exact .alone (halone.trans hc.symm)

/-- A mark that is no sign has none when it is doubled either. -/
theorem keepsSign_doubled {c : Char} {token : Token} (hc : Sign.ofChar? c = none)
    (htoken : token.sign? = none) {following : List Lexeme} {made : Token × Nat}
    (h : doubled c token following = .ok made) :
    KeepsSign (.mark c) following (some made.1) made.2 := by
  cases following with
  | nil => cases h
  | cons next rest =>
    rw [doubled] at h
    split at h
    · rename_i hfollows
      obtain ⟨rest, hrest⟩ := exists_of_follows hfollows
      cases hrest
      split at h
      · rename_i hequals
        obtain ⟨rest, rfl⟩ := exists_of_follows hequals
        cases h
        have hequal : Sign.ofChar? '=' = none := rfl
        exact ⟨hc.symm, by simp [Lexeme.sign?, hc, hequal]⟩
      · cases h
        exact ⟨htoken.trans hc.symm, by simp [Lexeme.sign?, hc]⟩
    · cases h

/-- Every mark keeps its sign. -/
theorem keepsSign_mark {c : Char} (hc : isMark c = true) {following : List Lexeme}
    {made : Token × Nat} (h : markToken c following = .ok made) :
    KeepsSign (.mark c) following (some made.1) made.2 := by
  unfold markToken at h
  split at h
  case h_11 => exact keepsSign_doubled rfl rfl h
  case h_12 => exact keepsSign_doubled rfl rfl h
  case h_13 | h_14 | h_15 =>
    cases h
    exact .alone rfl
  case h_16 =>
    -- The one mark that is left is the semicolon.
    have hall : c ∈
        ['+', '-', '*', '/', '%', '^', '(', ')', ',', ';', '=', '!', '>', '<', '&', '|'] :=
      List.contains_iff_mem.mp hc
    obtain rfl : c = ';' := by simp_all
    cases h
    exact .alone rfl
  all_goals
    cases h
    exact keepsSign_withEquals rfl rfl rfl following

/-- A word has no sign, and the pieces of an exponent have none. -/
theorem keepsSign_word (cs : List Char) (following : List Lexeme) :
    KeepsSign (.word cs) following (some (wordToken cs following).1)
      (wordToken cs following).2 := by
  rw [wordToken]
  split
  · exact .alone rfl
  · split
    · rename_i x hexponent
      -- A sign and a word make up the rest of the number.
      unfold splitExponent? at hexponent
      split at hexponent
      · rename_i c ds rest
        obtain ⟨hsign, -⟩ := Option.ite_none_right_eq_some.mp hexponent
        have hc : Sign.ofChar? c = none := by
          rcases Bool.or_eq_true_iff.mp hsign with hplus | hminus
          · rw [beq_iff_eq.mp hplus]
            rfl
          · rw [beq_iff_eq.mp hminus]
            rfl
        exact ⟨rfl, by simp [Lexeme.sign?, hc]⟩
      · cases hexponent
    · exact .alone rfl

/-- Every piece keeps its sign. -/
theorem keepsSign_tokenAt {piece : Lexeme} (hmark : ∀ c, piece = .mark c → isMark c = true)
    {following : List Lexeme} {token : Option Token} {n : Nat}
    (h : tokenAt piece following = .ok (token, n)) : KeepsSign piece following token n := by
  cases piece with
  | mark c =>
    obtain ⟨made, hmade, heq⟩ := Except.map_eq_ok.mp h
    cases heq
    exact keepsSign_mark (hmark c rfl) hmade
  | blank =>
    cases h
    exact .alone rfl
  | word cs =>
    cases h
    exact keepsSign_word cs following
  | quoted s =>
    cases h
    exact .alone rfl

/-- Tokens have the signs of the pieces that are not used up. -/
theorem signs_of_tokensFrom {pieces : List Lexeme}
    (hmarks : ∀ c, Lexeme.mark c ∈ pieces → isMark c = true) {skip : Nat}
    (hskip : ∀ p ∈ pieces.take skip, p.sign? = none) {ts : List Token}
    (h : tokensFrom skip pieces = .ok ts) :
    ts.filterMap Token.sign? = pieces.filterMap Lexeme.sign? := by
  induction pieces generalizing skip ts with
  | nil =>
    cases h
    rfl
  | cons piece rest ih =>
    have hrest : ∀ c, Lexeme.mark c ∈ rest → isMark c = true := fun c hc =>
      hmarks c (List.mem_cons_of_mem piece hc)
    cases skip with
    | succ skip =>
      rw [List.take_succ_cons, List.forall_mem_cons] at hskip
      rw [List.filterMap_cons_none hskip.1]
      exact ih hrest hskip.2 h
    | zero =>
      rw [tokensFrom] at h
      split at h
      · cases h
      all_goals
        rename_i n htoken
        obtain ⟨hfirst, hothers⟩ :=
          keepsSign_tokenAt (fun c hc => hmarks c (hc ▸ List.mem_cons_self)) htoken
      · rw [List.filterMap_cons_none hfirst.symm]
        exact ih hrest hothers h
      · obtain ⟨more, hmore, rfl⟩ := Except.map_eq_ok.mp h
        rw [List.filterMap_cons, List.filterMap_cons, ← hfirst, ih hrest hothers hmore]
        rfl

/-! ### Pieces of a text -/

/-- Ending a word adds no marks. -/
theorem mem_of_mem_flush {c : Char} {acc : List Char} {rest : List Lexeme}
    (h : Lexeme.mark c ∈ flush acc rest) : Lexeme.mark c ∈ rest := by
  rw [flush] at h
  split at h
  · exact h
  · simpa using h

/-- Ending a word adds no signs. -/
theorem signs_of_flush (acc : List Char) (rest : List Lexeme) :
    (flush acc rest).filterMap Lexeme.sign? = rest.filterMap Lexeme.sign? := by
  rw [flush]
  split
  · rfl
  · exact List.filterMap_cons_none rfl

/-- Only marks are cut off as marks. -/
theorem isMark_of_mem {place : Place} {acc cs : List Char} {pieces : List Lexeme}
    (h : lexemesFrom place acc cs = .ok pieces) {c : Char} (hc : Lexeme.mark c ∈ pieces) :
    isMark c = true := by
  fun_induction lexemesFrom place acc cs generalizing pieces
  case case1 | case3 =>
    cases h
    exact absurd (mem_of_mem_flush hc) List.not_mem_nil
  case case2 | case4 | case12 | case14 => cases h
  case case7 ih =>
    obtain ⟨more, hmore, rfl⟩ := Except.map_eq_ok.mp h
    exact ih hmore (mem_of_mem_flush hc)
  case case8 hmark ih =>
    obtain ⟨more, hmore, rfl⟩ := Except.map_eq_ok.mp h
    rcases List.mem_cons.mp (mem_of_mem_flush hc) with heq | hmem
    · cases heq
      exact hmark
    · exact ih hmore hmem
  case case9 ih =>
    obtain ⟨more, hmore, rfl⟩ := Except.map_eq_ok.mp h
    exact ih hmore (by simpa using mem_of_mem_flush hc)
  case case13 ih =>
    obtain ⟨more, hmore, rfl⟩ := Except.map_eq_ok.mp h
    exact ih hmore (by simpa using hc)
  -- Everywhere else the pieces are those of the rest.
  all_goals
    rename_i ih
    exact ih h hc

/-- No comment begins in a text. -/
def Uncommented (cs : List Char) : Prop :=
  cs.IsChain fun c d => c = '/' → d ≠ '/' ∧ d ≠ '*'

/-- Where no comment begins, a character is a quote, a mark, a blank or part of a word. -/
theorem lexemesFrom_uncommented {c : Char} {rest : List Char}
    (h : ∀ d, rest.head? = some d → c = '/' → d ≠ '/' ∧ d ≠ '*') (acc : List Char) :
    lexemesFrom .code acc (c :: rest)
      = if c == '"' then (flush acc ·) <$> lexemesFrom (.string []) [] rest
        else if isMark c then (flush acc <| .mark c :: ·) <$> lexemesFrom .code [] rest
        else if Text.isBlank c then (flush acc <| .blank :: ·) <$> lexemesFrom .code [] rest
        else lexemesFrom .code (c :: acc) rest := by
  rw [lexemesFrom]
  · rintro more rfl rfl
    exact (h '/' rfl rfl).1 rfl
  · rintro more rfl rfl
    exact (h '*' rfl rfl).2 rfl

/-- The characters of code stand outside of strings, and lists have become calls. -/
def IsCode (cs : List Char) : Prop := ∀ c ∈ cs, c ≠ '"' ∧ c ≠ '[' ∧ c ≠ ']'

/-- Whether a text is code can be decided. -/
instance (cs : List Char) : Decidable (IsCode cs) := List.decidableBAll _ _

/-- **Code.** Where a string or nothing comes behind code without comments, the pieces of the code
    have the signs of its characters. -/
theorem signs_of_code {cs : List Char} (hcs : IsCode cs) (hcomment : Uncommented cs)
    {back : List Char} (hback : ∀ c, back.head? = some c → c = '"') {acc : List Char}
    {pieces : List Lexeme}
    (h : lexemesFrom .code acc (cs ++ back) = .ok pieces) :
    ∃ acc' more, lexemesFrom .code acc' back = .ok more ∧ pieces.filterMap Lexeme.sign?
      = cs.filterMap Sign.ofChar? ++ more.filterMap Lexeme.sign? := by
  -- A word may be pending, so `acc` is general.
  induction cs generalizing acc pieces with
  | nil => exact ⟨acc, pieces, h, rfl⟩
  | cons c cs ih =>
    obtain ⟨⟨hquote, hbracket⟩, hrest⟩ := List.forall_mem_cons.mp hcs
    have hslash : ∀ d, (cs ++ back).head? = some d → c = '/' → d ≠ '/' ∧ d ≠ '*' := by
      intro d hd
      cases cs with
      | nil =>
        rw [hback d hd]
        exact fun _ => by decide
      | cons e cs =>
        cases hd
        exact (List.isChain_cons_cons.mp hcomment).1
    rw [List.cons_append, lexemesFrom_uncommented hslash, if_neg (by simpa using hquote)] at h
    have hnext {acc : List Char} {more : List Lexeme}
        (hmore : lexemesFrom .code acc (cs ++ back) = .ok more) :=
      ih hrest hcomment.tail hmore
    split at h
    · obtain ⟨more, hmore, rfl⟩ := Except.map_eq_ok.mp h
      obtain ⟨acc', last, hlast, hsigns⟩ := hnext hmore
      refine ⟨acc', last, hlast, ?_⟩
      rw [signs_of_flush, List.filterMap_cons, List.filterMap_cons, hsigns, Lexeme.sign?]
      cases Sign.ofChar? c <;> rfl
    · rename_i hmark
      rw [List.filterMap_cons_none (ofChar_eq_none (by simpa using hmark) hbracket)]
      split at h
      · obtain ⟨more, hmore, rfl⟩ := Except.map_eq_ok.mp h
        rw [signs_of_flush, List.filterMap_cons_none rfl]
        exact hnext hmore
      · exact hnext h

/-- The content of a string as it is written between double quotes: every quote stands behind a
    backslash, which belongs to it. -/
inductive IsContent : List Char → Prop where
  | nil : IsContent []
  | escaped (c : Char) {cs : List Char} : IsContent cs → IsContent ('\\' :: c :: cs)
  | plain {c : Char} {cs : List Char} :
    c ≠ '"' → c ≠ '\\' → IsContent cs → IsContent (c :: cs)

/-- **Strings.** Content between double quotes is one piece, if its escapes are legal. -/
theorem exists_of_quoted {cs : List Char} (hcs : IsContent cs) {s acc back : List Char}
    {pieces : List Lexeme}
    (h : lexemesFrom (.string s) acc (cs ++ '"' :: back) = .ok pieces) :
    ∃ s more, lexemesFrom .code acc back = .ok more ∧ pieces = .quoted s :: more := by
  induction hcs generalizing s with
  | nil =>
    obtain ⟨more, hmore, rfl⟩ := Except.map_eq_ok.mp h
    exact ⟨_, more, hmore, rfl⟩
  | escaped c _ ih =>
    rw [List.cons_append, List.cons_append, lexemesFrom] at h
    split at h
    · exact ih h
    · cases h
  | plain hquote hbackslash _ ih =>
    rw [List.cons_append, lexemesFrom, if_neg (by simpa using hquote),
      if_neg (by simpa using hbackslash)] at h
    · exact ih h
    · rintro c rest rfl
      exact absurd rfl hbackslash

end Questionnaire.Expression
