import Mathlib.Data.List.Basic
import Questionnaire.Toml.Quoted

namespace Questionnaire.Toml

/-!
# Quoted strings

A string is written in a form that can be read again.  A basic string has escapes for whatever needs
one; a literal string is only chosen where nothing needs one.

* `readInside_escape` — a basic string up to its closing quotes is what has been escaped.
* `readInside_literal` — the same for a literal string that fits.
* `readQuoted_quoted` — every string that is written is read.
-/

/-! ### Closing quotes -/

/-- In a string on one line, a quote closes it. -/
theorem closing_single {f : Form} (h : f.multi = false) (rest : List Char) :
    closing? f (f.quote :: rest) = some ([], rest) := by
  simp [closing?, h]

/-- Any other character does not. -/
theorem closing_single_none {f : Form} (h : f.multi = false) {c : Char} (hc : c ≠ f.quote)
    (rest : List Char) : closing? f (c :: rest) = none := by
  simp [closing?, h, hc]

/-- Up to two quotes may stand in front of the closing ones. -/
theorem closing_multi {f : Form} (h : f.multi = true) {k : Nat} (hk : k ≤ 2) {rest : List Char}
    (hrest : rest.head? ≠ some f.quote) :
    closing? f (List.replicate k f.quote ++ (f.delimiter ++ rest))
      = some (List.replicate k f.quote, rest) := by
  have hdelimiter : f.delimiter = List.replicate 3 f.quote := by simp [Form.delimiter, h]
  have htext : List.replicate k f.quote ++ (f.delimiter ++ rest)
      = List.replicate (k + 3) f.quote ++ rest := by
    rw [hdelimiter, ← List.append_assoc, List.replicate_append_replicate]
  -- The quotes in front and the closing ones are one run, which ends where `rest` starts.
  have hstop : rest.takeWhile (· == f.quote) = [] := by
    cases rest with
    | nil => rfl
    | cons c rest =>
      have hc : c ≠ f.quote := by simpa using hrest
      simp [hc]
  have hrun : (List.replicate (k + 3) f.quote ++ rest).takeWhile (· == f.quote)
      = List.replicate (k + 3) f.quote := by
    rw [List.takeWhile_append_of_pos (by simp), hstop, List.append_nil]
  rw [htext]
  unfold closing?
  simp only [h, hrun, List.length_replicate]
  rw [if_neg (by simp), if_neg (by omega), Nat.min_eq_left (by omega), Nat.add_sub_cancel]
  simp

/-- In a string on several lines, fewer than three quotes do not close it. -/
theorem closing_multi_none {f : Form} (h : f.multi = true) {cs : List Char}
    (hcs : (cs.takeWhile (· == f.quote)).length ≤ 2) : closing? f cs = none := by
  unfold closing?
  rw [if_neg (by simp [h])]
  exact if_pos (by omega)

/-! ### Characters -/

/-- A character of text that does not close the string and starts no escape is read as it is. -/
theorem readInside_plain {f : Form} {c : Char} {rest : List Char}
    (hclosing : closing? f (c :: rest) = none) (hescape : c = '\\' → f.basic = false)
    (htext : isTextChar c = true ∨ (f.multi = true ∧ isBreakChar c = true)) :
    readInside f (.plain false) (c :: rest) = after c (readInside f (.plain false) rest) := by
  rw [readInside, if_neg (by simp), hclosing]
  have hbackslash : ¬ (c == '\\' && f.basic) = true := by
    intro hboth
    obtain ⟨hc, hbasic⟩ : c = '\\' ∧ f.basic = true := by simpa using hboth
    rw [hescape hc] at hbasic
    cases hbasic
  have hplain : (isTextChar c || (f.multi && isBreakChar c)) = true := by
    rcases htext with htext | ⟨hmulti, hbreak⟩
    · simp [htext]
    · simp [hmulti, hbreak]
  simp only [if_neg hbackslash, if_pos hplain]

/-- The closing quotes end the string. -/
theorem readInside_closing {f : Form} {cs found rest : List Char} (hne : cs ≠ [])
    (h : closing? f cs = some (found, rest)) :
    readInside f (.plain false) cs = some (found, rest) := by
  cases cs with
  | nil => exact absurd rfl hne
  | cons c cs =>
    rw [readInside, if_neg (by simp), h]

/-- A backslash does not close a basic string. -/
theorem closing_backslash {f : Form} (hbasic : f.basic = true) (rest : List Char) :
    closing? f ('\\' :: rest) = none := by
  have hquote : f.quote = '"' := by simp [Form.quote, hbasic]
  cases hmulti : f.multi with
  | false => exact closing_single_none hmulti (by rw [hquote]; decide) rest
  | true => exact closing_multi_none hmulti (by simp [hquote])

/-- A backslash starts an escape. -/
theorem readInside_backslash {f : Form} (hbasic : f.basic = true) (rest : List Char) :
    readInside f (.plain false) ('\\' :: rest) = readInside f .escaped rest := by
  rw [readInside, if_neg (by simp), closing_backslash hbasic]
  simp [hbasic]

/-- A backslash with a mark is read as the character that the mark stands for. -/
theorem readInside_simple {f : Form} (hbasic : f.basic = true) {c d : Char}
    (h : simpleEscape? c = some d) (rest : List Char) :
    readInside f (.plain false) ('\\' :: c :: rest)
      = after d (readInside f (.plain false) rest) := by
  rw [readInside_backslash hbasic, readInside]
  simp only [h]

/-! ### Escapes -/

/-- Control characters have codes of two digits. -/
theorem isControl_lt {c : Char} (h : isControl c = true) : c.toNat < 0x80 := by
  simp only [isControl, Bool.or_eq_true, Bool.and_eq_true, decide_eq_true_eq, beq_iff_eq] at h
  omega

/-- Each digit of a code but the last one is gathered. -/
theorem readInside_digit {f : Form} {digit : Char} {x : Nat}
    (h : Text.digitValue? 16 digit = some x) (left value : Nat) (rest : List Char) :
    readInside f (.code (left + 2) value) (digit :: rest)
      = readInside f (.code (left + 1) (value * 16 + x)) rest := by
  rw [readInside, h]
  simp

/-- The last digit gives the character of the code. -/
theorem readInside_lastDigit {f : Form} {digit : Char} {x value : Nat} {c : Char}
    (h : Text.digitValue? 16 digit = some x) (hvalue : value * 16 + x = c.toNat)
    (rest : List Char) :
    readInside f (.code 1 value) (digit :: rest)
      = after c (readInside f (.plain false) rest) := by
  have hchar : charOf? c.toNat = some c := by
    have hvalid : Nat.isValidChar c.toNat := c.valid
    rw [charOf?, if_pos hvalid, Char.ofNat_toNat]
  rw [readInside, h]
  simp [hvalue, hchar]

/-- The code of a control character is read as that character. -/
theorem readInside_controlDigits {f : Form} {c : Char} (h : isControl c = true)
    (rest : List Char) :
    readInside f .escaped ('u' :: (controlDigits c ++ rest))
      = after c (readInside f (.plain false) rest) := by
  have hcode := isControl_lt h
  -- Upper-case digits are written, and the reader takes both cases.
  have hdigit : ∀ n < 16, Text.digitValue? 16
      (if n < 10 then Char.ofNat (0x30 + n) else Char.ofNat (0x37 + n)) = some n := by decide
  have hzero : Text.digitValue? 16 '0' = some 0 := by decide
  have hstart : readInside f .escaped ('u' :: (controlDigits c ++ rest))
      = readInside f (.code 4 0) (controlDigits c ++ rest) := by
    rw [readInside]
    rfl
  rw [hstart, controlDigits]
  simp only [List.cons_append, List.nil_append]
  rw [readInside_digit hzero 2, readInside_digit hzero 1,
    readInside_digit (hdigit (c.toNat / 16) (by omega)) 0]
  exact readInside_lastDigit (hdigit (c.toNat % 16) (by omega)) (by omega) rest

/-- What may be written for a character of a basic string: a backslash with a mark, the code of a
    control character, or the character itself. -/
inductive EscapesTo (multi : Bool) (c : Char) : List Char → Prop
  | simple (mark : Char) : simpleEscape? mark = some c → mark ≠ '\r' ∧ mark ≠ '\n' →
      EscapesTo multi c ['\\', mark]
  | control : isControl c = true → EscapesTo multi c ('\\' :: 'u' :: controlDigits c)
  | plain : isTextChar c = true ∨ (multi = true ∧ c = '\n') → c ≠ '\\' → c ≠ '\r' →
      EscapesTo multi c [c]

/-- What is written for a character is one of the escapes for it. -/
theorem escapesTo_escapeChar (multi : Bool) (c : Char) :
    EscapesTo multi c (escapeChar multi c) := by
  -- One case for each branch of the definition; the last two are those of all other characters.
  unfold escapeChar
  by_cases hslash : c = '\\'
  · subst hslash
    exact .simple '\\' rfl (by decide)
  by_cases htab : c = '\t'
  · subst htab
    exact .simple 't' rfl (by decide)
  by_cases hreturn : c = '\r'
  · subst hreturn
    exact .simple 'r' rfl (by decide)
  by_cases hback : c = '\x08'
  · subst hback
    exact .simple 'b' rfl (by decide)
  by_cases hfeed : c = '\x0c'
  · subst hfeed
    exact .simple 'f' rfl (by decide)
  by_cases hline : c = '\n'
  · subst hline
    cases multi with
    | false => exact .simple 'n' rfl (by decide)
    | true => exact .plain (Or.inr ⟨rfl, rfl⟩) (by decide) (by decide)
  simp only [beq_iff_eq, hslash, htab, hreturn, hback, hfeed, hline, if_false]
  split
  · rename_i hcontrol
    exact .control hcontrol
  · rename_i hcontrol
    refine .plain (Or.inl ?_) hslash hreturn
    simp [isControl, isTextChar, htab, hline] at hcontrol ⊢
    omega

/-- What is written for a character other than a quote is read as that character. -/
theorem readInside_escapeChar {f : Form} (hbasic : f.basic = true) {c : Char} (hc : c ≠ '"')
    (rest : List Char) :
    readInside f (.plain false) (escapeChar f.multi c ++ rest)
      = after c (readInside f (.plain false) rest) := by
  have hquote : f.quote = '"' := by simp [Form.quote, hbasic]
  have hescape := escapesTo_escapeChar f.multi c
  generalize escapeChar f.multi c = written at hescape ⊢
  -- A character is escaped by a mark, by digits, or not at all.
  cases hescape with
  | simple mark hmark => exact readInside_simple hbasic hmark rest
  | control hcontrol =>
    rw [List.cons_append, readInside_backslash hbasic]
    exact readInside_controlDigits hcontrol rest
  | plain htext hslash =>
    have htext' : isTextChar c = true ∨ (f.multi = true ∧ isBreakChar c = true) := by
      rcases htext with htext | ⟨hmulti, rfl⟩
      · exact Or.inl htext
      · exact Or.inr ⟨hmulti, rfl⟩
    refine readInside_plain ?_ (fun heq => absurd heq hslash) htext'
    cases hmulti : f.multi with
    | false => exact closing_single_none hmulti (by rwa [hquote]) rest
    | true => exact closing_multi_none hmulti (by simp [hquote, hc])

/-! ### Basic strings -/

/-- No escape begins with a quote, but that of a quote itself. -/
theorem escapeChar_head {c : Char} (hc : c ≠ '"') (multi : Bool) :
    ∃ d ds, escapeChar multi c = d :: ds ∧ d ≠ '"' := by
  have hescape := escapesTo_escapeChar multi c
  generalize escapeChar multi c = written at hescape ⊢
  cases hescape with
  | simple mark => exact ⟨'\\', [mark], rfl, by decide⟩
  | control => exact ⟨'\\', _, rfl, by decide⟩
  | plain => exact ⟨c, [], rfl, hc⟩

/-- A few quotes stay as they are. -/
theorem escape_replicate {run k : Nat} (h : run + k ≤ 2) :
    escape true run (List.replicate k '"') = List.replicate k '"' := by
  induction k generalizing run with
  | zero => rfl
  | succ k ih =>
    have hfew : (true && decide (run < 2)) = true := by
      simp
      omega
    rw [List.replicate_succ, escape, if_pos (by rfl), if_pos hfew, ih (by omega)]

/-- Unless there is nothing but a few quotes, what is written starts with too few quotes to close
    the string. -/
theorem takeWhile_escape {run : Nat} (hrun : run ≤ 2) {cs : List Char}
    (hcs : ∀ k, run + k ≤ 2 → cs ≠ List.replicate k '"') (more : List Char) :
    ((escape true run cs ++ more).takeWhile (· == '"')).length ≤ 2 - run := by
  induction cs generalizing run with
  | nil => exact absurd rfl (hcs 0 (by omega))
  | cons c cs ih =>
    by_cases hc : c = '"'
    · subst hc
      rw [escape, if_pos (by rfl)]
      split
      · rename_i hfew
        have hlt : run < 2 := by simpa using hfew
        -- one quote more has been read, and one fewer may follow
        have hrest := @ih (run + 1) (by omega) fun k hk heq =>
          hcs (k + 1) (by omega) (by rw [heq, List.replicate_succ])
        rw [List.cons_append, List.takeWhile_cons, if_pos (by rfl), List.length_cons]
        omega
      · simp
    · obtain ⟨d, ds, hchars, hd⟩ := escapeChar_head hc true
      rw [escape, if_neg (by simpa using hc), hchars]
      simp [hd]

/-- A basic string on one line is read up to its closing quote. -/
theorem readInside_escape_single {f : Form} (hbasic : f.basic = true) (hmulti : f.multi = false)
    (run : Nat) (cs rest : List Char) :
    readInside f (.plain false) (escape false run cs ++ (f.delimiter ++ rest))
      = some (cs, rest) := by
  have hquote : f.quote = '"' := by simp [Form.quote, hbasic]
  have hdelimiter : f.delimiter = ['"'] := by simp [Form.delimiter, hmulti, hquote]
  -- The induction is on the characters, with the run of quotes before them left open.
  induction cs generalizing run with
  | nil =>
    refine readInside_closing (by simp [escape, hdelimiter]) ?_
    rw [escape, hdelimiter, ← hquote]
    exact closing_single hmulti rest
  | cons c cs ih =>
    by_cases hc : c = '"'
    · subst hc
      rw [escape, if_pos (by rfl), if_neg (by simp), List.cons_append, List.cons_append,
        readInside_simple hbasic rfl, ih 0]
      rfl
    · have hchar := readInside_escapeChar hbasic hc (escape false 0 cs ++ (f.delimiter ++ rest))
      rw [hmulti] at hchar
      rw [escape, if_neg (by simpa using hc), List.append_assoc, hchar, ih 0]
      rfl

/-- On several lines the quotes of the text can be next to the closing ones. -/
theorem readInside_escape_multi {f : Form} (hbasic : f.basic = true) (hmulti : f.multi = true)
    {run : Nat} (hrun : run ≤ 2) (cs : List Char) {rest : List Char}
    (hrest : rest.head? ≠ some f.quote) :
    readInside f (.plain false) (escape true run cs ++ (f.delimiter ++ rest))
      = some (cs, rest) := by
  have hquote : f.quote = '"' := by simp [Form.quote, hbasic]
  -- `run` quotes have just been read, so only `2 - run` more may come before some other character.
  induction cs generalizing run with
  | nil =>
    have hclosing := closing_multi hmulti (Nat.zero_le 2) hrest
    exact readInside_closing (by simp [Form.delimiter, hmulti]) hclosing
  | cons c cs ih =>
    -- A few quotes at the very end have no escape: they are found together with the closing ones.
    by_cases hfew : ∃ k, run + k ≤ 2 ∧ c :: cs = List.replicate k '"'
    · obtain ⟨k, hk, hcs⟩ := hfew
      have hclosing := closing_multi (k := k) hmulti (by omega) hrest
      rw [hcs, escape_replicate hk]
      rw [hquote] at hclosing
      exact readInside_closing (by simp [Form.delimiter, hmulti]) hclosing
    · have hcs : ∀ k, run + k ≤ 2 → c :: cs ≠ List.replicate k '"' := fun k hk heq =>
        hfew ⟨k, hk, heq⟩
      have htake := takeWhile_escape hrun hcs (f.delimiter ++ rest)
      by_cases hc : c = '"'
      · subst hc
        rw [escape, if_pos (by rfl)] at htake ⊢
        split at htake
        · -- a quote without escape: too few of them stand here to close the string
          rename_i hlt
          have hlt' : run < 2 := by simpa using hlt
          rw [if_pos hlt, List.cons_append, readInside_plain, ih (by omega)]
          · rfl
          · refine closing_multi_none hmulti ?_
            rw [hquote]
            exact Nat.le_trans htake (by omega)
          · intro heq
            cases heq
          · exact Or.inl rfl
        · rename_i hge
          rw [if_neg hge, List.cons_append, List.cons_append, readInside_simple hbasic rfl,
            ih (by omega)]
          rfl
      · have hchar := readInside_escapeChar hbasic hc (escape true 0 cs ++ (f.delimiter ++ rest))
        rw [hmulti] at hchar
        rw [escape, if_neg (by simpa using hc), List.append_assoc, hchar, ih (by omega)]
        rfl

/-- **Basic strings.** What is written between the quotes of a basic string is read as the
    string.  No quote may follow the closing ones. -/
theorem readInside_escape {f : Form} (hbasic : f.basic = true) (cs : List Char)
    {rest : List Char} (hrest : rest.head? ≠ some f.quote) :
    readInside f (.plain false) (escape f.multi 0 cs ++ (f.delimiter ++ rest))
      = some (cs, rest) := by
  cases hmulti : f.multi with
  | false => exact readInside_escape_single hbasic hmulti 0 cs rest
  | true => exact readInside_escape_multi hbasic hmulti (Nat.zero_le 2) cs hrest

/-! ### Literal strings -/

/-- A string without three quotes in a row is a few quotes, or does not start with enough of them to
    close it. -/
theorem takeWhile_of_hasTriple {q : Char} {run : Nat} (hrun : run ≤ 2) {cs : List Char}
    (h : Form.hasTriple q run cs = false) :
    (∃ k, run + k ≤ 2 ∧ cs = List.replicate k q)
      ∨ ∀ more, ((cs ++ more).takeWhile (· == q)).length ≤ 2 - run := by
  -- Without three quotes in a row, the text is at most two quotes or they end in it.
  induction cs generalizing run with
  | nil => exact Or.inl ⟨0, by omega, rfl⟩
  | cons c cs ih =>
    rw [Form.hasTriple] at h
    by_cases hc : c = q
    · subst hc
      obtain ⟨hlt, hrest⟩ : run < 2 ∧ Form.hasTriple c (run + 1) cs = false := by simpa using h
      rcases ih (by omega) hrest with ⟨k, hk, rfl⟩ | htake
      · exact Or.inl ⟨k + 1, by omega, by rw [List.replicate_succ]⟩
      · refine Or.inr fun more => ?_
        have hmore := htake more
        rw [List.cons_append, List.takeWhile_cons, if_pos (by simp), List.length_cons]
        omega
    · exact Or.inr fun more => by simp [hc]

/-- A character that is no control character is one of text, or a line break. -/
theorem isTextChar_of_isControl {c : Char} (h : isControl c = false) :
    isTextChar c = true ∨ c = '\n' := by
  by_cases hline : c = '\n'
  · exact Or.inr hline
  by_cases htab : c = '\t'
  · subst htab
    exact Or.inl rfl
  simp [isControl, isTextChar, htab, hline] at h ⊢
  omega

/-- A literal string on one line is read up to its closing quote. -/
theorem readInside_literal_single {f : Form} (hliteral : f.basic = false)
    (hmulti : f.multi = false) {cs : List Char} (hcontrol : ∀ c ∈ cs, isControl c = false)
    (hquote : f.quote ∉ cs) (hline : '\n' ∉ cs) (rest : List Char) :
    readInside f (.plain false) (cs ++ (f.delimiter ++ rest)) = some (cs, rest) := by
  have hdelimiter : f.delimiter = [f.quote] := by simp [Form.delimiter, hmulti]
  induction cs with
  | nil =>
    refine readInside_closing (by simp [hdelimiter]) ?_
    rw [hdelimiter]
    exact closing_single hmulti rest
  | cons c cs ih =>
    obtain ⟨hc, hquote⟩ : f.quote ≠ c ∧ f.quote ∉ cs := by simpa using hquote
    obtain ⟨hc', hline⟩ : '\n' ≠ c ∧ '\n' ∉ cs := by simpa using hline
    have htext := (isTextChar_of_isControl (hcontrol c (by simp))).resolve_right (Ne.symm hc')
    rw [List.cons_append, readInside_plain (closing_single_none hmulti (Ne.symm hc) _)
      (fun _ => hliteral) (Or.inl htext), ih (fun d hd => hcontrol d (by simp [hd])) hquote hline]
    rfl

/-- A literal string on several lines is read up to its closing quotes, if it has no three quotes in
    a row and no fourth one follows. -/
theorem readInside_literal_multi {f : Form} (hliteral : f.basic = false) (hmulti : f.multi = true)
    {run : Nat} (hrun : run ≤ 2) {cs : List Char} (hcontrol : ∀ c ∈ cs, isControl c = false)
    (htriple : Form.hasTriple f.quote run cs = false) {rest : List Char}
    (hrest : rest.head? ≠ some f.quote) :
    readInside f (.plain false) (cs ++ (f.delimiter ++ rest)) = some (cs, rest) := by
  induction cs generalizing run with
  | nil =>
    exact readInside_closing (by simp [Form.delimiter, hmulti])
      (closing_multi hmulti (Nat.zero_le 2) hrest)
  | cons c cs ih =>
    rcases takeWhile_of_hasTriple hrun htriple with ⟨k, hk, hcs⟩ | htake
    · -- nothing but a few quotes, which end the string together with the closing ones
      rw [hcs]
      exact readInside_closing (by simp [Form.delimiter, hmulti])
        (closing_multi hmulti (by omega) hrest)
    · have hnone := closing_multi_none hmulti
        (Nat.le_trans (htake (f.delimiter ++ rest)) (Nat.sub_le 2 run))
      have htext : isTextChar c = true ∨ (f.multi = true ∧ isBreakChar c = true) := by
        rcases isTextChar_of_isControl (hcontrol c (by simp)) with htext | rfl
        · exact Or.inl htext
        · exact Or.inr ⟨hmulti, rfl⟩
      have hcontrol' : ∀ d ∈ cs, isControl d = false := fun d hd => hcontrol d (by simp [hd])
      -- The reader does not count quotes, but `hasTriple` does: the rest is read from either count.
      have hread : readInside f (.plain false) (cs ++ (f.delimiter ++ rest))
          = some (cs, rest) := by
        rw [Form.hasTriple] at htriple
        split at htriple
        · obtain ⟨hlt, htail⟩ : run < 2 ∧ Form.hasTriple f.quote (run + 1) cs = false := by
            simpa using htriple
          exact ih (by omega) hcontrol' htail
        · exact ih (Nat.zero_le 2) hcontrol' htriple
      rw [List.cons_append] at hnone ⊢
      rw [readInside_plain hnone (fun _ => hliteral) htext, hread]
      rfl

/-- **Literal strings.** A string that fits between literal quotes is read as it is. -/
theorem readInside_literal {f : Form} (hliteral : f.basic = false) {cs : List Char}
    (hfits : f.fits cs = true) {rest : List Char} (hrest : rest.head? ≠ some f.quote) :
    readInside f (.plain false) (cs ++ (f.delimiter ++ rest)) = some (cs, rest) := by
  obtain ⟨hcontrol, hquotes⟩ : (∀ c ∈ cs, isControl c = false)
      ∧ (if f.multi then !Form.hasTriple f.quote 0 cs
        else !cs.contains f.quote && !cs.contains '\n') = true := by
    simpa [Form.fits, hliteral] using hfits
  cases hmulti : f.multi with
  | false =>
    obtain ⟨hquote, hline⟩ : f.quote ∉ cs ∧ '\n' ∉ cs := by simpa [hmulti] using hquotes
    exact readInside_literal_single hliteral hmulti hcontrol hquote hline rest
  | true =>
    have htriple : Form.hasTriple f.quote 0 cs = false := by simpa [hmulti] using hquotes
    exact readInside_literal_multi hliteral hmulti (Nat.zero_le 2) hcontrol htriple hrest

/-! ### Line ends -/

/-- The code of a control character is made of a mark and of digits. -/
theorem mem_controlDigits {c d : Char} (hcontrol : isControl c = true)
    (h : d ∈ controlDigits c) : d ≠ '\r' ∧ d ≠ '\n' := by
  have hcode := isControl_lt hcontrol
  have hdigit : ∀ n < 16, (if n < 10 then Char.ofNat (0x30 + n) else Char.ofNat (0x37 + n)) ≠ '\r'
      ∧ (if n < 10 then Char.ofNat (0x30 + n) else Char.ofNat (0x37 + n)) ≠ '\n' := by decide
  simp only [controlDigits, List.mem_cons, List.not_mem_nil, or_false] at h
  rcases h with rfl | rfl | rfl | rfl
  · decide
  · decide
  · exact hdigit (c.toNat / 16) (by omega)
  · exact hdigit (c.toNat % 16) (by omega)

/-- No escape brings a carriage return with it, and a line break comes from a line break only. -/
theorem mem_escapeChar {multi : Bool} {c d : Char} (h : d ∈ escapeChar multi c) :
    d ≠ '\r' ∧ (d = '\n' → c = '\n') := by
  have hother (he : d ≠ '\r' ∧ d ≠ '\n') : d ≠ '\r' ∧ (d = '\n' → c = '\n') :=
    ⟨he.1, fun heq => absurd heq he.2⟩
  -- The escapes are all printed characters, so a break can only be the character itself.
  have hescape := escapesTo_escapeChar multi c
  generalize escapeChar multi c = written at h hescape
  cases hescape with
  | simple mark _ hmark =>
    rcases List.mem_pair.mp h with rfl | rfl
    · exact hother (by decide)
    · exact hother hmark
  | control hcontrol =>
    rcases List.mem_cons.mp h with rfl | h
    · exact hother (by decide)
    rcases List.mem_cons.mp h with rfl | h
    · exact hother (by decide)
    exact hother (mem_controlDigits hcontrol h)
  | plain _ _ hreturn =>
    obtain rfl := List.mem_singleton.mp h
    exact ⟨hreturn, id⟩

/-- Nothing is written with a carriage return, and line ends only where there are some. -/
theorem mem_escape {multi : Bool} {run : Nat} {cs : List Char} {d : Char}
    (h : d ∈ escape multi run cs) : d ≠ '\r' ∧ (d = '\n' → '\n' ∈ cs) := by
  induction cs generalizing run with
  | nil => cases h
  | cons c cs ih =>
    have htail {run : Nat} (h : d ∈ escape multi run cs) : d ≠ '\r' ∧ (d = '\n' → '\n' ∈ c :: cs) :=
      ⟨(ih h).1, fun heq => List.mem_cons_of_mem c ((ih h).2 heq)⟩
    rw [escape] at h
    split at h
    · rename_i hc
      have hquote : c = '"' := by simpa using hc
      split at h
      · rcases List.mem_cons.mp h with rfl | h
        · rw [hquote]
          exact ⟨by decide, fun heq => absurd heq (by decide)⟩
        · exact htail h
      · rcases List.mem_cons.mp h with rfl | h
        · exact ⟨by decide, fun heq => absurd heq (by decide)⟩
        · rcases List.mem_cons.mp h with rfl | h
          · exact ⟨by decide, fun heq => absurd heq (by decide)⟩
          · exact htail h
    · rcases List.mem_append.mp h with h | h
      · obtain ⟨hreturn, hline⟩ := mem_escapeChar h
        exact ⟨hreturn, fun heq => by rw [hline heq]; exact List.mem_cons_self⟩
      · exact htail h

/-- What stands between the quotes of a string. -/
def Form.body (f : Form) (cs : List Char) : List Char :=
  if f.basic then escape f.multi 0 cs else cs

/-- The forms in which a string may be written. -/
def Form.Suits (f : Form) (cs : List Char) : Prop := f.basic = true ∨ f.fits cs = true

/-- Between its quotes, a string has no carriage return, and line breaks only where it has them
    itself. -/
theorem Form.Suits.mem_body {f : Form} {cs : List Char} (h : f.Suits cs) {d : Char}
    (hd : d ∈ f.body cs) : d ≠ '\r' ∧ (d = '\n' → '\n' ∈ cs) := by
  cases hbasic : f.basic with
  | true =>
    rw [Form.body, if_pos hbasic] at hd
    exact mem_escape hd
  | false =>
    rw [Form.body, if_neg (by simp [hbasic])] at hd
    have hfits : f.fits cs = true := h.resolve_left (by simp [hbasic])
    refine ⟨?_, fun heq => heq ▸ hd⟩
    rintro rfl
    have hcontrol : ∀ c ∈ cs, isControl c = false := by
      simp only [Form.fits, Bool.and_eq_true, Bool.not_eq_true', List.any_eq_false] at hfits
      intro c hc
      simpa using hfits.1.1 c hc
    exact absurd (hcontrol _ hd) (by decide)

/-- The body of a string in a form that suits it is read up to its delimiter. -/
theorem Form.Suits.readInside {f : Form} {cs : List Char} (h : f.Suits cs) {rest : List Char}
    (hrest : rest.head? ≠ some f.quote) :
    Toml.readInside f (.plain false) (f.body cs ++ (f.delimiter ++ rest)) = some (cs, rest) := by
  cases hbasic : f.basic with
  | true =>
    rw [Form.body, if_pos hbasic]
    exact readInside_escape hbasic cs hrest
  | false =>
    rw [Form.body, if_neg (by simp [hbasic])]
    exact readInside_literal hbasic (h.resolve_left (by simp [hbasic])) hrest

/-! ### Whole strings -/

/-- A string is written as its body between two delimiters, with a line break in front if it has
    several lines. -/
theorem write_eq (f : Form) (cs : List Char) :
    f.write cs = f.delimiter ++ ((if f.multi && cs.contains '\n' then ['\n'] else [])
      ++ (f.body cs ++ f.delimiter)) := by
  simp [Form.write, Form.body]

/-- Strings are written without carriage returns. -/
theorem Form.Suits.return_not_mem_write {f : Form} {cs : List Char} (h : f.Suits cs) :
    '\r' ∉ f.write cs := by
  have hdelimiter : '\r' ∉ f.delimiter := by
    intro hmem
    have hquote : '\r' = f.quote := (List.mem_replicate.mp hmem).2
    cases hbasic : f.basic <;> simp [Form.quote, hbasic] at hquote
  rw [write_eq]
  simp only [List.mem_append, not_or]
  refine ⟨hdelimiter, ?_, fun hmem => (h.mem_body hmem).1 rfl, hdelimiter⟩
  split <;> simp

/-- On one line, no quote stands right after the opening one but the closing one. -/
theorem Form.Suits.body_head {f : Form} {cs : List Char} (h : f.Suits cs)
    (hmulti : f.multi = false) : (f.body cs).head? ≠ some f.quote := by
  -- On one line each quote has an escape in a basic string and does not fit in a literal one.
  cases cs with
  | nil => cases hbasic : f.basic <;> simp [Form.body, hbasic, escape]
  | cons c cs =>
    cases hbasic : f.basic with
    | true =>
      have hquote : f.quote = '"' := by simp [Form.quote, hbasic]
      rw [Form.body, if_pos hbasic, hquote, hmulti, escape]
      by_cases hc : c = '"'
      · simp [hc]
      · obtain ⟨d, ds, hchars, hd⟩ := escapeChar_head hc false
        simp [hc, hchars, hd]
    | false =>
      have hfits : f.fits (c :: cs) = true := h.resolve_left (by simp [hbasic])
      have hquote : f.quote ≠ c := by
        simp [Form.fits, hbasic, hmulti] at hfits
        exact hfits.2.1.1
      simpa [Form.body, hbasic] using Ne.symm hquote

/-- A single quote, without two more of them, opens a string on one line. -/
theorem readQuoted_single {f : Form} (hmulti : f.multi = false) {cs : List Char}
    (h : ∀ rest, cs ≠ f.quote :: f.quote :: rest) :
    readQuoted (f.quote :: cs)
      = (readInside f (.plain false) cs).map fun (s, rest) => (String.ofList s, rest) := by
  -- The reader looks for the quotes of each form by themselves, so the form must be known.
  obtain ⟨basic, multi⟩ := f
  obtain rfl : multi = false := hmulti
  cases basic with
  | true =>
    show readQuoted ('"' :: cs) = _
    rw [readQuoted]
    · rfl
    · exact h
  | false =>
    show readQuoted ('\x27' :: cs) = _
    rw [readQuoted]
    · rfl
    · exact h

/-- Three quotes open one on several lines. -/
theorem readQuoted_multi {f : Form} (hmulti : f.multi = true) (cs : List Char) :
    readQuoted (f.delimiter ++ cs) = readOpened f cs := by
  obtain ⟨basic, multi⟩ := f
  obtain rfl : multi = true := hmulti
  cases basic <;> rfl

/-- A line end right after the opening quotes is dropped, others are not. -/
theorem readOpened_multi {f : Form} (hmulti : f.multi = true) (cs : List Char) :
    readOpened f ('\n' :: cs)
      = (readInside f (.plain false) cs).map fun (s, rest) => (String.ofList s, rest) := by
  simp [readOpened, hmulti]

/-- Nothing is skipped there if no line break follows. -/
theorem readOpened_multi_plain {f : Form} (hmulti : f.multi = true) {c : Char} (cs : List Char)
    (hc : c ≠ '\n' ∧ c ≠ '\r') :
    readOpened f (c :: cs)
      = (readInside f (.plain false) (c :: cs)).map fun (s, rest) => (String.ofList s, rest) := by
  unfold readOpened
  rw [hmulti]
  dsimp only
  split
  · rename_i heq
    exact absurd (List.cons.inj heq).1 hc.1
  · rename_i heq
    exact absurd (List.cons.inj heq).1 hc.2
  · rfl

/-- On one line, three quotes never stand at the front. -/
theorem Form.Suits.ne_triple {f : Form} {cs : List Char} (h : f.Suits cs)
    (hmulti : f.multi = false) {rest : List Char} (hrest : rest.head? ≠ some f.quote)
    (more : List Char) : f.body cs ++ (f.delimiter ++ rest) ≠ f.quote :: f.quote :: more := by
  have hdelimiter : f.delimiter = [f.quote] := by simp [Form.delimiter, hmulti]
  have hhead := h.body_head hmulti
  -- An empty string is the one case with two quotes; then a third would have to follow.
  intro heq
  cases hbody : f.body cs with
  | nil =>
    rw [hbody, hdelimiter] at heq
    obtain rfl : rest = f.quote :: more := by simpa using heq
    exact hrest rfl
  | cons c body =>
    rw [hbody] at heq hhead
    exact hhead (by rw [(List.cons.inj heq).1]; rfl)

/-- **Reading.** A string in a form that suits it is read back, unless another quote follows. -/
theorem readQuoted_write {f : Form} {cs : List Char} (h : f.Suits cs) {rest : List Char}
    (hrest : rest.head? ≠ some '"' ∧ rest.head? ≠ some '\x27') :
    readQuoted (f.write cs ++ rest) = some (String.ofList cs, rest) := by
  have hquote : f.quote = '"' ∨ f.quote = '\x27' := by
    cases hbasic : f.basic <;> simp [Form.quote, hbasic]
  have hfollow : rest.head? ≠ some f.quote := by
    rcases hquote with hquote | hquote <;> rw [hquote]
    · exact hrest.1
    · exact hrest.2
  have hinside := h.readInside hfollow
  cases hmulti : f.multi with
  | false =>
    have hdelimiter : f.delimiter = [f.quote] := by simp [Form.delimiter, hmulti]
    have htext : f.write cs ++ rest = f.quote :: (f.body cs ++ (f.delimiter ++ rest)) := by
      simp [write_eq, hmulti, hdelimiter]
    rw [htext, readQuoted_single hmulti (h.ne_triple hmulti hfollow), hinside]
    rfl
  | true =>
    rw [write_eq, List.append_assoc, readQuoted_multi hmulti, List.append_assoc, List.append_assoc]
    -- The reader drops a line end after the opening quotes.  It is one that the writer has put
    -- there, or there is none at all.
    by_cases hline : '\n' ∈ cs
    · have hcontains : (f.multi && cs.contains '\n') = true := by simp [hmulti, hline]
      rw [if_pos hcontains, List.singleton_append, readOpened_multi hmulti, hinside]
      rfl
    · have hcontains : ¬ (f.multi && cs.contains '\n') = true := by simp [hline]
      rw [if_neg hcontains, List.nil_append]
      have hstart : ∃ c more, f.body cs ++ (f.delimiter ++ rest) = c :: more
          ∧ c ≠ '\n' ∧ c ≠ '\r' := by
        cases hbody : f.body cs with
        | nil =>
          refine ⟨f.quote, _, by simp only [Form.delimiter, hmulti]; rfl, ?_⟩
          rcases hquote with hquote | hquote <;> rw [hquote] <;> decide
        | cons c body =>
          obtain ⟨hreturn, hbreak⟩ := h.mem_body (d := c) (by simp [hbody])
          exact ⟨c, _, rfl, fun heq => hline (hbreak heq), hreturn⟩
      obtain ⟨c, more, htext, hc⟩ := hstart
      rw [htext] at hinside ⊢
      rw [readOpened_multi_plain hmulti more hc, hinside]
      rfl

/-- The form that is chosen for a string is one that suits it. -/
theorem best_suits (cs : List Char) : (Form.best cs).Suits cs := by
  rw [Form.best]
  cases hfind : Form.preferred.find? (·.fits cs) with
  | none => exact Or.inl rfl
  | some f =>
    have hfits := List.find?_some hfind
    exact Or.inr (by simpa using hfits)

/-- Every string that is written is read, whatever follows it, and what follows is left. -/
theorem readQuoted_quoted (s : String) {rest : List Char}
    (hrest : rest.head? ≠ some '"' ∧ rest.head? ≠ some '\x27') :
    readQuoted (quoted s ++ rest) = some (s, rest) := by
  rw [quoted, readQuoted_write (best_suits _) hrest, String.ofList_toList]

end Questionnaire.Toml
