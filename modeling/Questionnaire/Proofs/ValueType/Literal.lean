import Mathlib.Data.List.Chain
import Mathlib.Data.List.TakeWhile
import Questionnaire.Proofs.Except
import Questionnaire.Proofs.ValueType.Read

namespace Questionnaire.ValueType

/-!
# Literal types of strings

A string stands in a literal type as it is typed: between double quotes, with a backslash in front
of every quote and backslash.  What reads the type takes the backslashes for characters of the
string, and every quote for an end.

* `readLiteral_of_quote` — a text that holds a quote and does not stand between two is no literal.
* `piecesFrom_cases` — the pieces of a text are the text itself, or the last one stands behind a
  comma.
* `trim_lastPiece` — behind a comma inside a written string no piece starts with a quote.
* `read_literal` — what is read is the string with its backslashes, if it is read at all.
-/

open Questionnaire.Text (isBlank trim StartsFull)

variable {cs : List Char}

/-! ### Numerals have no quotes -/

/-- A quote is no sign. -/
theorem quote_mem_splitSign (h : '"' ∈ cs) : '"' ∈ (Number.splitSign cs).2 := by
  unfold Number.splitSign
  split
  · simpa using h
  · simpa using h
  · exact h

/-- A text that holds a quote is no integer. -/
theorem readInt_of_quote (h : '"' ∈ cs) : Number.readInt? cs = none := by
  rw [Number.readInt?, Number.readIntIn?, Option.bind_eq_none_iff]
  intro n hn
  exact absurd (quote_mem_splitSign h) (Text.not_mem_of_readDigits hn (by decide))

/-- A text that holds a quote is no exponent. -/
theorem readExponent_of_quote (h : '"' ∈ cs) : Number.readExponent? cs = none := by
  cases cs with
  | nil => cases h
  | cons c rest =>
    rw [Number.readExponent?]
    split
    · rename_i hc
      have hrest : '"' ∈ rest := by
        rcases List.mem_cons.mp h with rfl | hrest
        · exact absurd hc (by decide)
        · exact hrest
      have hnone : Text.readDigits? 10 (Number.splitSign rest).2 = none := by
        rw [Option.eq_none_iff_forall_ne_some]
        intro n hn
        exact Text.not_mem_of_readDigits hn (by decide) (quote_mem_splitSign hrest)
      simp [hnone]
    · rfl

/-- A text that holds a quote is no magnitude. -/
theorem readMagnitude_of_quote (h : '"' ∈ cs) : Number.readMagnitude? cs = none := by
  rw [← List.takeWhile_append_dropWhile (p := Char.isDigit) (l := cs), List.mem_append] at h
  rw [Number.readMagnitude_eq, Number.readParts_eq, Option.bind_eq_none_iff]
  intro n hn
  -- the quote is not among the digits of the mantissa, so it is in the exponent
  have hno : '"' ∉ cs.takeWhile Char.isDigit
      ++ (Number.splitFraction (cs.dropWhile Char.isDigit)).1 :=
    Text.not_mem_of_readDigits hn (by decide)
  rw [List.mem_append, not_or] at hno
  have hrest := (Number.mem_splitFraction (by decide) (h.resolve_left hno.1)).resolve_left hno.2
  rw [readExponent_of_quote hrest, Option.map_none]

/-- No number is written with a quote. -/
theorem readFloat_of_quote (h : '"' ∈ cs) : Number.readFloat? cs = none := by
  have hmagnitude := quote_mem_splitSign h
  have hname (name : String) (hno : '"' ∉ name.toList) :
      (String.ofList ((Number.splitSign cs).2.map Char.toLower) == name) = false := by
    rw [beq_eq_false_iff_ne]
    rintro rfl
    rw [String.toList_ofList] at hno
    exact hno (List.mem_map.mpr ⟨'"', hmagnitude, by decide⟩)
  simp [Number.readFloat?, hname "inf" (by decide),
    hname "infinity" (by decide), hname "nan" (by decide),
    readMagnitude_of_quote hmagnitude]

/-- A text that holds a quote and does not stand between two is no literal. -/
theorem readLiteral_of_quote (hquote : '"' ∈ trim cs) (hopen : unquote? (trim cs) = none) :
    readLiteral cs = .error (.unsupportedLiteral (String.ofList (trim cs))) := by
  have hword (word : String) (hno : '"' ∉ word.toList) :
      (String.ofList (trim cs) == word) = false := by
    rw [beq_eq_false_iff_ne]
    rintro rfl
    rw [String.toList_ofList] at hno
    exact hno hquote
  simp [readLiteral, hopen, hword "True" (by decide), hword "true" (by decide),
    hword "False" (by decide), hword "false" (by decide),
    hword "None" (by decide), readInt_of_quote hquote, readFloat_of_quote hquote]

/-! ### Pieces of a written string -/

/-- The pieces of a text are the text itself, or the last one is what stands behind a comma. -/
theorem piecesFrom_cases {depth : Nat} {quote : Option Char} {acc : List Char}
    {pieces : List (List Char)} (h : piecesFrom depth quote acc cs = .ok pieces) :
    pieces = [acc.reverse ++ cs]
      ∨ ∃ front before last, pieces = front ++ [last] ∧ cs = before ++ ',' :: last := by
  induction cs generalizing depth quote acc pieces with
  | nil =>
    rw [piecesFrom] at h
    split at h
    · exact .inl (by simpa using (Except.ok.inj h).symm)
    · cases h
  | cons c rest ih =>
    have hgather {depth : Nat} {quote : Option Char}
        (h : piecesFrom depth quote (c :: acc) rest = .ok pieces) :
        pieces = [acc.reverse ++ c :: rest]
          ∨ ∃ front before last, pieces = front ++ [last] ∧ c :: rest = before ++ ',' :: last := by
      refine (ih h).imp (fun hall => by simpa using hall) ?_
      rintro ⟨front, before, last, hpieces, rfl⟩
      exact ⟨front, c :: before, last, hpieces, rfl⟩
    cases quote with
    | some q => exact hgather h
    | none =>
      unfold piecesFrom at h
      dsimp only at h
      split at h
      · exact hgather h
      · split at h
        · exact hgather h
        · split at h
          · split at h
            · cases h
            · exact hgather h
          · split at h
            · -- the comma ends a piece
              rename_i hcomma
              obtain ⟨pieces', hrest, rfl⟩ := Except.map_eq_ok.mp h
              obtain rfl : c = ',' := by simp_all
              refine .inr ?_
              rcases ih hrest with rfl | ⟨front, before, last, rfl, rfl⟩
              · exact ⟨[acc.reverse], [], rest, rfl, rfl⟩
              · exact ⟨acc.reverse :: front, ',' :: before, last, rfl, rfl⟩
            · exact hgather h

/-- A quote stands only behind a backslash. -/
def GuardsQuote (c d : Char) : Prop := d = '"' → c = '\\'

/-- Between the outer quotes of a written string, every quote has a backslash in front. -/
theorem isChain_escape (c : Char) (cs : List Char) :
    List.IsChain GuardsQuote (c :: Value.escape cs) := by
  induction cs generalizing c with
  | nil => exact .singleton c
  | cons d rest ih =>
    rw [Value.escape]
    split
    · exact .cons_cons (fun heq => absurd heq (by decide)) (.cons_cons (fun _ => rfl) (ih d))
    · rename_i hplain
      refine .cons_cons (fun heq => absurd ?_ hplain) (ih d)
      simp [heq]

/-- What stands behind a comma in a written string ends with a quote and starts with none that could
    belong to it. -/
theorem trim_lastPiece {content before last : List Char}
    (h : '"' :: Value.escape content ++ ['"'] = before ++ ',' :: last) :
    '"' ∈ trim last ∧ unquote? (trim last) = none := by
  -- the last character is the outer quote, and the comma lies between the outer quotes
  obtain ⟨inner, before', rfl, hinner⟩ : ∃ inner before', last = inner ++ ['"']
      ∧ Value.escape content = before' ++ ',' :: inner := by
    rcases List.eq_nil_or_concat last with rfl | ⟨inner, d, rfl⟩
    · obtain ⟨-, hcomma⟩ := List.append_inj' h rfl
      cases hcomma
    · rw [List.concat_eq_append, ← List.cons_append, ← List.append_assoc] at h
      obtain ⟨hinner, hd⟩ := List.append_inj' h rfl
      cases before with
      | nil => cases hinner
      | cons e before' =>
        exact ⟨inner, before', by rw [List.concat_eq_append, ← hd], (List.cons.inj hinner).2⟩
  have hsplit : inner.takeWhile isBlank ++ inner.dropWhile isBlank = inner :=
    List.takeWhile_append_dropWhile
  have hgap : Text.IsGap (inner.takeWhile isBlank) := fun c hc => List.mem_takeWhile_imp hc
  have hstart : StartsFull (inner.dropWhile isBlank) := Text.startsFull_dropWhile inner
  have hchain : List.IsChain GuardsQuote
      ((',' :: inner.takeWhile isBlank) ++ inner.dropWhile isBlank) := by
    have hall := isChain_escape '"' content
    rw [hinner, ← hsplit, ← List.cons_append] at hall
    exact hall.right_of_append
  generalize inner.takeWhile isBlank = gap at *
  generalize inner.dropWhile isBlank = body at *
  have htrim : trim (inner ++ ['"']) = body ++ ['"'] := by
    have hpadded : trim (gap ++ (body ++ ['"']) ++ []) = body ++ ['"'] := by
      refine Text.trim_padded hgap (by simp [Text.IsGap]) (by simp) ?_
        (Text.endsFull_concat (by decide) _)
      cases body with
      | nil => exact Text.startsFull_cons (by decide) _
      | cons d body' => exact Text.startsFull_cons (hstart d rfl) _
    rw [← hsplit]
    simpa using hpadded
  rw [htrim]
  refine ⟨by simp, ?_⟩
  cases body with
  | nil => rfl
  | cons d body' =>
    -- the character in front is the comma or a blank, so this one is no quote
    have hd : d ≠ '"' := by
      rintro rfl
      obtain ⟨-, -, hmeet⟩ := List.isChain_append.mp hchain
      obtain ⟨c, hc⟩ : ∃ c, c ∈ (',' :: gap).getLast? :=
        ⟨_, List.getLast?_eq_getLast_of_ne_nil (by simp)⟩
      have hbackslash : c = '\\' := hmeet c hc '"' rfl rfl
      rcases List.mem_cons.mp (List.mem_of_mem_getLast? hc) with hcomma | hblank
      · rw [hbackslash] at hcomma
        exact absurd hcomma (by decide)
      · have hblank := hgap c hblank
        rw [hbackslash] at hblank
        exact absurd hblank (by decide)
    simp [unquote?, hd.symm, hd]

/-! ### Reading -/

/-- A last piece that is not empty stays. -/
theorem dropEmptyLast_concat (front : List (List Char)) {last : List Char} (h : last ≠ []) :
    dropEmptyLast (front ++ [last]) = front ++ [last] := by
  induction front with
  | nil => simp [dropEmptyLast, h]
  | cons cs front ih =>
    cases front with
    | nil => simp [dropEmptyLast, h]
    | cons ds front =>
      rw [List.cons_append, List.cons_append, dropEmptyLast, ← List.cons_append, ih]
      simp

/-- Whoever reads all the texts reads each. -/
theorem readLiteral_of_mapM {texts : List (List Char)} {values : List Value}
    (h : texts.mapM readLiteral = .ok values) : ∀ ds ∈ texts, ∃ v, readLiteral ds = .ok v := by
  induction texts generalizing values with
  | nil => simp
  | cons ds texts ih =>
    rw [List.mapM_cons] at h
    obtain ⟨v, hv, hrest⟩ := Except.bind_eq_ok.mp h
    obtain ⟨values', hvalues, -⟩ := Except.bind_eq_ok.mp hrest
    exact List.forall_mem_cons.mpr ⟨⟨v, hv⟩, ih hvalues⟩

/-- Between two characters that are no blanks there is nothing to trim. -/
theorem trim_enclosed {c d : Char} (hc : isBlank c = false) (hd : isBlank d = false) :
    trim (c :: cs ++ [d]) = c :: cs ++ [d] := by
  have hpadded : trim ([] ++ (c :: cs ++ [d]) ++ []) = c :: cs ++ [d] :=
    Text.trim_padded (by simp [Text.IsGap]) (by simp [Text.IsGap]) (by simp)
      (Text.startsFull_cons hc _) (Text.endsFull_concat hd _)
  simpa using hpadded

/-- A written string has no blanks at its ends. -/
theorem trim_writtenStr (s : String) : trim (Value.writtenStr s) = Value.writtenStr s :=
  trim_enclosed (by decide) (by decide)

/-- A written string that stands alone is read with its backslashes. -/
theorem readLiteral_writtenStr (s : String) :
    readLiteral (Value.writtenStr s) = .ok (.str (String.ofList (Value.escape s.toList))) := by
  unfold readLiteral
  rw [trim_writtenStr]
  simp [Value.writtenStr, unquote?]

/-- The arguments that a written string is split into are the string alone, or no literals. -/
theorem mapM_readLiteral_split {s : String} {arguments : List (List Char)} {values : List Value}
    (hsplit : split (Value.writtenStr s) = .ok arguments)
    (hread : arguments.mapM readLiteral = .ok values) :
    values = [.str (String.ofList (Value.escape s.toList))] := by
  rw [split] at hsplit
  split at hsplit
  · cases hsplit
  · rename_i pieces hpieces
    dsimp only at hsplit
    split at hsplit
    · cases hsplit
    · obtain rfl := Except.ok.inj hsplit
      rcases piecesFrom_cases hpieces with rfl | ⟨front, before, last, rfl, hlast⟩
      · rw [List.map_singleton, List.reverse_nil, List.nil_append, trim_writtenStr] at hread
        have hone : dropEmptyLast [Value.writtenStr s] = [Value.writtenStr s] := by
          simp [dropEmptyLast, Value.writtenStr]
        rw [hone, List.mapM_cons, readLiteral_writtenStr] at hread
        exact (Except.ok.inj hread).symm
      · -- the last piece has a quote at its end and none at its start
        obtain ⟨hquote, hopen⟩ := trim_lastPiece hlast
        have hne : trim last ≠ [] := List.ne_nil_of_mem hquote
        rw [List.map_append, List.map_singleton, dropEmptyLast_concat _ hne] at hread
        obtain ⟨v, hv⟩ := readLiteral_of_mapM hread (trim last) (by simp)
        rw [← Text.trim_trim] at hquote hopen
        rw [readLiteral_of_quote hquote hopen] at hv
        cases hv

/-- The text of a literal type is read as its arguments are. -/
theorem readWithin_literal (content : List Char) (depth : Nat) :
    readWithin (depth + 1) (applied "Literal" content) = (match split content with
      | .error cause => .error (.split (String.ofList content) cause)
      | .ok arguments => .literal <$> arguments.mapM readLiteral) := by
  have htext : applied "Literal" content
      = 'L' :: ("iteral".toList ++ '[' :: content) ++ [']'] := rfl
  have htrim : trim (applied "Literal" content) = applied "Literal" content := by
    rw [htext]
    exact trim_enclosed (by decide) (by decide)
  have hname : String.ofList (trim "Literal".toList) = "Literal" := by
    rw [(IsWord.argument (by decide)).trim, String.ofList_toList]
  have hlast : ((content ++ [']']).getLast? != some ']') = false := by simp
  have hplain : ∀ c ∈ "Literal".toList, (c != '[') = true := List.all_eq_true.mp (by decide)
  rw [readWithin, htrim, applied_eq, List.cons_append,
    List.dropWhile_append_of_pos hplain, List.takeWhile_append_of_pos hplain,
    List.takeWhile_cons_of_neg (by decide), List.dropWhile_cons_of_neg (by decide), List.append_nil]
  dsimp only
  rw [hlast, hname, List.dropLast_concat]
  rfl

/-! ### Strings that are read as they are written -/

/-- The text of the type that allows one string, which stands in it as it is typed. -/
def literalText (s : String) : String := "Literal[" ++ (Value.str s).text ++ "]"

/-- The text of the type is an application to the written string. -/
theorem toList_literalText (s : String) :
    (literalText s).toList = applied "Literal" (Value.writtenStr s) := by
  simp [literalText, Value.text, Value.written, applied]

/-- The type is read by splitting the written string and reading its pieces. -/
theorem read_literalText (s : String) :
    read (literalText s) = (match split (Value.writtenStr s) with
      | .error cause => .error (.split (String.ofList (Value.writtenStr s)) cause)
      | .ok arguments => .literal <$> arguments.mapM readLiteral) := by
  rw [read, toList_literalText]
  exact readWithin_literal _ _

/-- Escapes make a text longer, if anything. -/
theorem length_le_escape (cs : List Char) : cs.length ≤ (Value.escape cs).length := by
  induction cs with
  | nil => exact Nat.le_refl _
  | cons c cs ih =>
    rw [Value.escape]
    split <;> simp only [List.length_cons] <;> omega

/-- Writing a string changes it unless it has neither quotes nor backslashes. -/
theorem escape_eq_self {cs : List Char} (h : Value.escape cs = cs) : '"' ∉ cs ∧ '\\' ∉ cs := by
  induction cs with
  | nil => simp
  | cons c cs ih =>
    rw [Value.escape] at h
    split at h
    · have hlength := congrArg List.length h
      have hle := length_le_escape cs
      simp only [List.length_cons] at hlength
      omega
    · rename_i hplain
      obtain ⟨hquote, hbackslash⟩ : c ≠ '"' ∧ c ≠ '\\' := by simpa using hplain
      obtain ⟨hquotes, hbackslashes⟩ := ih (List.cons.inj h).2
      exact ⟨List.not_mem_cons_of_ne_of_not_mem hquote.symm hquotes,
        List.not_mem_cons_of_ne_of_not_mem hbackslash.symm hbackslashes⟩

/-- Escapes bring in no quotes. -/
theorem quote_not_mem_escape {cs : List Char} (h : '"' ∉ cs) : '"' ∉ Value.escape cs := by
  induction cs with
  | nil => exact h
  | cons c cs ih =>
    obtain ⟨hc, hcs⟩ : '"' ≠ c ∧ '"' ∉ cs := by simpa using h
    rw [Value.escape]
    split <;> simp [hc, ih hcs]

/-- Without quotes in it, a written string is one argument. -/
theorem split_writtenStr {s : String} (h : '"' ∉ s.toList) :
    split (Value.writtenStr s) = .ok [Value.writtenStr s] := by
  have hargument : IsArgument (Value.writtenStr s) :=
    ⟨passes_quoted (quote_not_mem_escape h), by simp [Value.writtenStr],
      Text.startsFull_cons (by decide) _, Text.endsFull_concat (by decide) _⟩
  exact split_row (List.forall_mem_singleton.mpr hargument)

/-- A literal of one string accepts this string only. -/
theorem accepts_literal_str (a : String) (v : Value) :
    (ValueType.literal [.str a]).accepts v = true ↔ v = .str a := by
  have haccepts : (ValueType.literal [.str a]).accepts v = (Value.str a == v) := by
    simp [accepts]
  rw [haccepts]
  cases v with
  | str b =>
    show (a == b) = true ↔ _
    rw [beq_iff_eq, Value.str.injEq, eq_comm]
  | none | bool | int | float | seq | function => exact ⟨nofun, nofun⟩

/-- **Literal strings.** The text of the type of one string is read as the type of the string with a
    backslash in front of each of its quotes and backslashes, or not at all.  It is read when the
    string has no quotes, and it is the type of the string itself exactly when that has no
    backslashes either. -/
theorem read_literal (s : String) :
    (∀ t, read (literalText s) = .ok t →
        ∀ v, t.accepts v = true ↔ v = .str (String.ofList (Value.escape s.toList)))
      ∧ ('"' ∉ s.toList → ∃ t, read (literalText s) = .ok t)
      ∧ ((∃ t, read (literalText s) = .ok t ∧ ∀ v, t.accepts v = true ↔ v = .str s)
        ↔ '"' ∉ s.toList ∧ '\\' ∉ s.toList) := by
  -- What is read is the literal of the escaped string, if anything is.
  have hescaped : ∀ t, read (literalText s) = .ok t →
      ∀ v, t.accepts v = true ↔ v = .str (String.ofList (Value.escape s.toList)) := by
    intro t ht
    rw [read_literalText] at ht
    split at ht
    · cases ht
    · rename_i arguments hsplit
      obtain ⟨values, hvalues, rfl⟩ := Except.map_eq_ok.mp ht
      rw [mapM_readLiteral_split hsplit hvalues]
      exact accepts_literal_str _
  have hread (h : '"' ∉ s.toList) : ∃ t, read (literalText s) = .ok t := by
    rw [read_literalText, split_writtenStr h]
    dsimp only
    rw [List.mapM_cons, readLiteral_writtenStr]
    exact ⟨_, rfl⟩
  refine ⟨hescaped, hread, ?_, ?_⟩
  -- If that is the string itself, nothing has been escaped in it.
  · rintro ⟨t, ht, haccepts⟩
    have hself : Value.str s = .str (String.ofList (Value.escape s.toList)) :=
      (hescaped t ht _).mp ((haccepts _).mpr rfl)
    refine escape_eq_self ?_
    conv_rhs => rw [Value.str.inj hself]
    rw [String.toList_ofList]
  · rintro ⟨hquote, hbackslash⟩
    obtain ⟨t, ht⟩ := hread hquote
    refine ⟨t, ht, fun v => ?_⟩
    rw [hescaped t ht, escape_eq hquote hbackslash, String.ofList_toList]

/-- Commas, brackets and the other quote belong to a string. -/
theorem read_literal_marks :
    '"' ∉ "a,b] ('".toList ∧ '\\' ∉ "a,b] ('".toList
      ∧ ∃ t, read "Literal[\"a,b] ('\"]" = .ok t ∧ t.accepts (.str "a,b] ('") = true := by
  have hmarks : '"' ∉ "a,b] ('".toList ∧ '\\' ∉ "a,b] ('".toList := by decide
  obtain ⟨t, ht, haccepts⟩ := (read_literal "a,b] ('").2.2.mpr hmarks
  exact ⟨hmarks.1, hmarks.2, t, ht, (haccepts _).mpr rfl⟩

/-- A single backslash is read as two. -/
theorem read_literal_backslash :
    literalText "\\" = "Literal[\"\\\\\"]"
      ∧ read (literalText "\\") = .ok (.literal [.str "\\\\"])
      ∧ ¬ ∃ t, read (literalText "\\") = .ok t ∧ ∀ v, t.accepts v = true ↔ v = .str "\\" := by
  have hread : read (literalText "\\") = .ok (.literal [.str "\\\\"]) := by rfl
  refine ⟨by decide, hread, ?_⟩
  rintro ⟨t, ht, haccepts⟩
  obtain rfl : .literal [.str "\\\\"] = t := Except.ok.inj (hread.symm.trans ht)
  exact absurd ((haccepts (.str "\\")).mpr rfl) (by decide)

end Questionnaire.ValueType
