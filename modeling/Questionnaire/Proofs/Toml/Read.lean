import Mathlib.Data.Bool.AllAny
import Questionnaire.Proofs.Keyed
import Questionnaire.Proofs.Toml.Quoted
import Questionnaire.Toml.Read

namespace Questionnaire.Toml

/-!
# Lines of a document

* `readKey_quotedKey` — every key that is written is read.
* `readEntry_entryText` — a line with a key and a string is read as these.
* `hasWholeBreaks_of_not_mem` — a text without carriage returns has whole line ends.
-/

/-! ### Starts -/

/-- A character that a key starts with. -/
def StartsKey (c : Char) : Prop := isBareChar c = true ∨ c = '"' ∨ c = '\x27'

/-- A character with which a key starts is neither blank nor a break, and begins no comment and no
    table. -/
theorem StartsKey.plain {c : Char} (h : StartsKey c) :
    isBlankChar c = false ∧ isBreakChar c = false ∧ c ≠ '#' ∧ c ≠ '[' := by
  -- The characters that the readers of lines look for first; none of them starts a key.
  have hother : ∀ d ∈ [' ', '\t', '\n', '\r', '#', '['],
      isBareChar d = false ∧ d ≠ '"' ∧ d ≠ '\x27' := List.all_iff_forall_prop.mp (by decide)
  have hne : ∀ d ∈ [' ', '\t', '\n', '\r', '#', '['], c ≠ d := by
    rintro d hd rfl
    obtain ⟨hbare, hdouble, hsingle⟩ := hother c hd
    rcases h with h | h | h
    · rw [hbare] at h
      cases h
    · exact hdouble h
    · exact hsingle h
  simp only [List.mem_cons, List.not_mem_nil, or_false, forall_eq_or_imp, forall_eq] at hne
  simp [isBlankChar, isBreakChar, hne]

/-- The form of a key in quotes. -/
theorem keyForm_suits (cs : List Char) :
    (((Form.preferred.take 2).find? (·.fits cs)).getD ⟨true, false⟩).Suits cs
      ∧ (((Form.preferred.take 2).find? (·.fits cs)).getD ⟨true, false⟩).multi = false := by
  cases hfind : (Form.preferred.take 2).find? (·.fits cs) with
  | none => exact ⟨Or.inl rfl, rfl⟩
  | some f =>
    have hfits := List.find?_some hfind
    have hmem : f ∈ [(⟨true, false⟩ : Form), ⟨false, false⟩] := List.mem_of_find?_eq_some hfind
    refine ⟨Or.inr (by simpa using hfits), ?_⟩
    rcases List.mem_pair.mp hmem with rfl | rfl <;> rfl

/-- A string is written with a quote in front. -/
theorem write_head (f : Form) (cs : List Char) :
    ∃ q more, f.write cs = q :: more ∧ (q = '"' ∨ q = '\x27') := by
  have hquote : f.quote = '"' ∨ f.quote = '\x27' := by
    cases hbasic : f.basic <;> simp [Form.quote, hbasic]
  cases hmulti : f.multi <;>
    exact ⟨f.quote, _, by simp only [write_eq, Form.delimiter, hmulti]; rfl, hquote⟩

/-- A written key starts with a character with which keys start. -/
theorem quotedKey_head (key : String) :
    ∃ c more, quotedKey key = c :: more ∧ StartsKey c := by
  unfold quotedKey
  dsimp only
  split
  · rename_i hbare
    obtain ⟨hne, hall⟩ : key.toList ≠ [] ∧ ∀ c ∈ key.toList, isBareChar c = true := by
      simpa using hbare
    cases hkey : key.toList with
    | nil => exact absurd hkey hne
    | cons c more => exact ⟨c, more, rfl, Or.inl (hall c (by simp [hkey]))⟩
  · obtain ⟨q, more, htext, hq⟩ := write_head _ key.toList
    exact ⟨q, more, htext, Or.inr hq⟩

/-! ### Keys -/

/-- A key in quotes is read as a string. -/
theorem readKey_quote {f : Form} {cs : List Char}
    (h : ∀ more, cs ≠ f.quote :: f.quote :: more) :
    readKey (f.quote :: cs) = readQuoted (f.quote :: cs) := by
  obtain ⟨basic, multi⟩ := f
  cases basic with
  | true =>
    show readKey ('"' :: cs) = _
    rw [readKey]
    · rfl
    · exact h
  | false =>
    show readKey ('\x27' :: cs) = _
    rw [readKey]
    · rfl
    · exact h

/-- A key without quotes ends at the first character that cannot be in one. -/
theorem readKey_bare {cs : List Char} (hne : cs ≠ []) (hall : ∀ c ∈ cs, isBareChar c = true)
    (more : List Char) : readKey (cs ++ ' ' :: more) = some (String.ofList cs, ' ' :: more) := by
  have hblank : isBareChar ' ' = false := by decide
  have htake : (cs ++ ' ' :: more).takeWhile isBareChar = cs := by
    rw [List.takeWhile_append_of_pos hall]
    simp [hblank]
  have hdrop : (cs ++ ' ' :: more).dropWhile isBareChar = ' ' :: more := by
    rw [List.dropWhile_append_of_pos hall]
    simp [hblank]
  have hquote : ∀ c ∈ cs, c ≠ '"' ∧ c ≠ '\x27' := by
    intro c hc
    constructor
    · rintro rfl
      exact absurd (hall _ hc) (by decide)
    · rintro rfl
      exact absurd (hall _ hc) (by decide)
  cases cs with
  | nil => exact absurd rfl hne
  | cons c cs =>
    have hc := hquote c (by simp)
    rw [List.cons_append] at htake hdrop ⊢
    unfold readKey
    -- The first four cases are those of keys in quotes.
    split
    · rename_i heq
      exact absurd (List.cons.inj heq).1 hc.1
    · rename_i heq
      exact absurd (List.cons.inj heq).1 hc.2
    · rename_i heq
      exact absurd (List.cons.inj heq).1 hc.1
    · rename_i heq
      exact absurd (List.cons.inj heq).1 hc.2
    · rw [htake, hdrop]
      simp

/-- A key in quotes is read like a string on one line. -/
theorem readKey_write {f : Form} {cs : List Char} (h : f.Suits cs) (hmulti : f.multi = false)
    (more : List Char) :
    readKey (f.write cs ++ ' ' :: more) = some (String.ofList cs, ' ' :: more) := by
  have hfollow : (' ' :: more).head? ≠ some f.quote := by
    cases hbasic : f.basic <;> simp [Form.quote, hbasic]
  have hread : readQuoted (f.write cs ++ ' ' :: more) = some (String.ofList cs, ' ' :: more) :=
    readQuoted_write h (by simp)
  have hdelimiter : f.delimiter = [f.quote] := by simp [Form.delimiter, hmulti]
  have htext : f.write cs ++ ' ' :: more
      = f.quote :: (f.body cs ++ (f.delimiter ++ ' ' :: more)) := by
    simp [write_eq, hmulti, hdelimiter]
  have htriple := h.ne_triple hmulti hfollow
  rw [htext] at hread ⊢
  rw [readKey_quote htriple, hread]

/-- **Keys.** A key is read back in front of a blank. -/
theorem readKey_quotedKey (key : String) (more : List Char) :
    readKey (quotedKey key ++ ' ' :: more) = some (key, ' ' :: more) := by
  unfold quotedKey
  dsimp only
  split
  · rename_i hbare
    obtain ⟨hne, hall⟩ : key.toList ≠ [] ∧ ∀ c ∈ key.toList, isBareChar c = true := by
      simpa using hbare
    rw [readKey_bare hne hall, String.ofList_toList]
  · obtain ⟨hsuits, hmulti⟩ := keyForm_suits key.toList
    rw [readKey_write hsuits hmulti, String.ofList_toList]

/-! ### Lines -/

/-- In front of anything else there are no blanks to skip. -/
theorem skipBlanks_cons {c : Char} (h : isBlankChar c = false) (cs : List Char) :
    skipBlanks (c :: cs) = c :: cs := by
  simp [skipBlanks, h]

/-- A key is read up to the equals sign. -/
theorem readPath_quotedKey (key : String) (fuel : Nat) (more : List Char) :
    readPath (fuel + 1) (quotedKey key ++ (" = ".toList ++ more))
      = some (([], key), '=' :: ' ' :: more) := by
  have hkey : readKey (skipBlanks (quotedKey key ++ (" = ".toList ++ more)))
      = some (key, ' ' :: '=' :: ' ' :: more) := by
    have hread := readKey_quotedKey key ('=' :: ' ' :: more)
    obtain ⟨c, cs, htext, hc⟩ := quotedKey_head key
    rw [htext] at hread ⊢
    rw [List.cons_append, skipBlanks_cons hc.plain.1]
    exact hread
  rw [readPath, hkey]
  rfl

/-- A string is read as a value, whatever follows it. -/
theorem readValue_quoted (value : String) (fuel levels : Nat) {rest : List Char}
    (hrest : rest.head? ≠ some '"' ∧ rest.head? ≠ some '\x27') :
    readValue (fuel + 1) levels (quoted value ++ rest) = some (.string value, rest) := by
  have hread := readQuoted_quoted value hrest
  obtain ⟨q, more, htext, hq⟩ := write_head (Form.best value.toList) value.toList
  rw [quoted, htext, List.cons_append] at hread ⊢
  have hquote : (q == '"' || q == '\x27') = true := by
    rcases hq with rfl | rfl <;> rfl
  rw [readValue]
  · rw [if_pos hquote, hread]
    rfl
  · rcases hq with rfl | rfl <;> decide
  · rcases hq with rfl | rfl <;> decide

/-- The text of a line with a key and a string, without its end. -/
def entryText (key value : String) : List Char :=
  quotedKey key ++ (" = ".toList ++ quoted value)

/-- **Lines.** A line with a key and a string is read as these. -/
theorem readEntry_entryText (key value : String) (fuel levels : Nat) (more : List Char) :
    readEntry (fuel + 2) levels (entryText key value ++ '\n' :: more)
      = some ((([], key), .string value), '\n' :: more) := by
  have hpath := readPath_quotedKey key (entryText key value ++ '\n' :: more).length
    (quoted value ++ '\n' :: more)
  obtain ⟨q, cs, htext, hq⟩ := write_head (Form.best value.toList) value.toList
  -- Blanks are skipped in front of the value, which must not be taken for blanks itself.
  have hskip : skipBlanks (' ' :: (quoted value ++ '\n' :: more))
      = quoted value ++ '\n' :: more := by
    have hblank : isBlankChar q = false := by rcases hq with rfl | rfl <;> rfl
    rw [quoted, htext]
    exact skipBlanks_cons hblank _
  rw [← List.append_assoc, ← List.append_assoc, List.append_assoc (quotedKey key),
    ← entryText] at hpath
  rw [readEntry, hpath]
  simp only [hskip]
  rw [readValue_quoted value fuel levels (by simp)]
  rfl

/-! ### Statements -/

/-- In front of a key there is nothing to skip. -/
theorem skipVoid_startsKey {c : Char} (h : StartsKey c) (cs : List Char) :
    skipVoid false (c :: cs) = some (c :: cs) := by
  obtain ⟨hblank, hbreak, hcomment, -⟩ := h.plain
  simp [skipVoid, hblank, hbreak, hcomment]

/-- An entry starts with its key. -/
theorem entryText_head (key value : String) :
    ∃ c more, entryText key value = c :: more ∧ StartsKey c := by
  obtain ⟨c, more, htext, hc⟩ := quotedKey_head key
  exact ⟨c, more ++ (" = ".toList ++ quoted value), by rw [entryText, htext]; rfl, hc⟩

/-- A line adds its entry to the document. -/
theorem readStatements_entryText {d d' : Draft} {key value : String}
    (hdefine : d.define [] key (.string value) = some d') {more next : List Char}
    (hnext : skipVoid false more = some next) (fuel : Nat) :
    readStatements (fuel + 1) d (entryText key value ++ '\n' :: more)
      = readStatements fuel d' next := by
  obtain ⟨c, cs, htext, hc⟩ := entryText_head key value
  have hentry := readEntry_entryText key value
    (2 * (entryText key value ++ '\n' :: more).length) deepest more
  rw [htext, List.cons_append] at hentry ⊢
  have hstatement : readStatement d (c :: (cs ++ '\n' :: more)) = some (d', '\n' :: more) := by
    unfold readStatement
    split
    · rename_i heq
      exact absurd (List.cons.inj heq).1 hc.plain.2.2.2
    · rw [hentry]
      simp [hdefine]
  have hline : skipLine? ('\n' :: more) = some next := hnext
  rw [readStatements, skipVoid_startsKey hc]
  simp only [hstatement, hline, Option.bind_some]

/-- A header opens a table that is not there yet. -/
theorem readStatements_values {entries : Entries} (h : "values" ∉ Keyed.keys entries)
    {more next : List Char} (hnext : skipVoid false more = some next) (fuel : Nat)
    (here : List String) :
    readStatements (fuel + 1) ⟨entries, here⟩ ('[' :: ("values]\n".toList ++ more))
      = readStatements fuel ⟨entries ++ [("values", .table .header [])], ["values"]⟩ next := by
  have hopen : openTable [] "values" entries
      = some (entries ++ [("values", .table .header [])]) := by
    simp [openTable, changeAt, Keyed.lookup_eq_none_of_not_mem h]
  have hpath : readPath ("values]\n".toList ++ more).length.succ ("values]\n".toList ++ more)
      = some (([], "values"), ']' :: '\n' :: more) := rfl
  have hheader : readHeader ⟨entries, here⟩ ("values]\n".toList ++ more)
      = some (⟨entries ++ [("values", .table .header [])], ["values"]⟩, '\n' :: more) := by
    have hsingle : (("values]\n".toList ++ more).head? == some '[') = false := rfl
    unfold readHeader
    simp only [hsingle, Bool.false_eq_true, if_false, hpath, hopen, List.nil_append]
  have hstatement : readStatement ⟨entries, here⟩ ('[' :: ("values]\n".toList ++ more))
      = some (⟨entries ++ [("values", .table .header [])], ["values"]⟩, '\n' :: more) := hheader
  have hvoid : skipVoid false ('[' :: ("values]\n".toList ++ more))
      = some ('[' :: ("values]\n".toList ++ more)) := rfl
  have hline : skipLine? ('\n' :: more) = some next := hnext
  rw [readStatements, hvoid]
  simp only [hstatement, hline, Option.bind_some]

/-- The entry of a key and a string. -/
def stringEntry (pair : String × String) : String × Toml := (pair.1, .string pair.2)

/-- The text of several lines with keys and strings. -/
def linesText (pairs : List (String × String)) : List Char :=
  pairs.flatMap fun (key, value) => entryText key value ++ ['\n']

/-- In front of lines of entries there is nothing to skip. -/
theorem skipVoid_linesText (pairs : List (String × String)) :
    skipVoid false (linesText pairs) = some (linesText pairs) := by
  cases pairs with
  | nil => rfl
  | cons pair pairs =>
    obtain ⟨c, more, htext, hc⟩ := entryText_head pair.1 pair.2
    simp only [linesText, List.flatMap_cons, htext, List.cons_append]
    exact skipVoid_startsKey hc _

/-- An entry with a new key goes to the end of the table of values. -/
theorem define_values {front inner : Entries} (hfront : "values" ∉ Keyed.keys front)
    {key : String} (hkey : key ∉ Keyed.keys inner) (value : String) :
    (⟨front ++ [("values", .table .header inner)], ["values"]⟩ : Draft).define [] key
        (.string value)
      = some ⟨front ++ [("values", .table .header (inner ++ [(key, .string value)]))],
          ["values"]⟩ := by
  have hlookup : (front ++ [("values", Toml.table .header inner)]).lookup "values"
      = some (.table .header inner) := by
    simp [List.lookup_append, Keyed.lookup_eq_none_of_not_mem hfront]
  -- A key that is there already would be an error: tables do not take a value twice.
  have hhas : Keyed.has inner key = false := by
    rw [Keyed.has, Keyed.lookup_eq_none_of_not_mem hkey]
    rfl
  have hput := Keyed.put_append hfront (Toml.table .header (inner ++ [(key, .string value)]))
    (.table .header inner) []
  simp [Draft.define, changeAt, hlookup, Toml.define, insertNew, hhas, hput]

/-- **Tables of strings.** Lines with distinct keys are read as their entries, in order. -/
theorem readStatements_linesText {front : Entries} (hfront : "values" ∉ Keyed.keys front)
    {pairs : List (String × String)} {inner : Entries}
    (hnodup : (Keyed.keys (inner ++ pairs.map stringEntry)).Nodup) {fuel : Nat}
    (hfuel : pairs.length < fuel) :
    readStatements fuel ⟨front ++ [("values", .table .header inner)], ["values"]⟩
        (linesText pairs)
      = some ⟨front ++ [("values", .table .header (inner ++ pairs.map stringEntry))],
          ["values"]⟩ := by
  induction pairs generalizing inner fuel with
  | nil =>
    obtain ⟨fuel, rfl⟩ : ∃ n, fuel = n + 1 := ⟨fuel - 1, by simp at hfuel; omega⟩
    simp [readStatements, linesText, skipVoid]
  | cons pair pairs ih =>
    obtain ⟨key, value⟩ := pair
    -- Each line takes one unit of fuel and adds one entry to those that are already there.
    obtain ⟨fuel, rfl⟩ : ∃ n, fuel = n + 1 := ⟨fuel - 1, by simp at hfuel; omega⟩
    have hkey : key ∉ Keyed.keys inner := by
      simp only [Keyed.keys, List.map_append, List.nodup_append] at hnodup
      intro hmem
      exact hnodup.2.2 key hmem key (by simp [stringEntry]) rfl
    have hlines : linesText ((key, value) :: pairs)
        = entryText key value ++ '\n' :: linesText pairs := by
      simp [linesText]
    rw [hlines, readStatements_entryText (define_values hfront hkey value)
      (skipVoid_linesText pairs), ih]
    · simp [stringEntry]
    · simpa [stringEntry] using hnodup
    · simp at hfuel
      omega

/-! ### Line ends -/

/-- An entry holds no carriage return. -/
theorem return_not_mem_entryText (key value : String) : '\r' ∉ entryText key value := by
  have hkey : '\r' ∉ quotedKey key := by
    unfold quotedKey
    dsimp only
    split
    · rename_i hbare
      intro hmem
      have hall : ∀ c ∈ key.toList, isBareChar c = true := by
        simp only [Bool.and_eq_true, List.all_eq_true] at hbare
        exact hbare.2
      exact absurd (hall _ hmem) (by decide)
    · exact (keyForm_suits key.toList).1.return_not_mem_write
  have hvalue : '\r' ∉ quoted value := (best_suits value.toList).return_not_mem_write
  simp [entryText, hkey, hvalue]

/-- Lines of entries hold no carriage return. -/
theorem return_not_mem_linesText (pairs : List (String × String)) : '\r' ∉ linesText pairs := by
  intro hmem
  obtain ⟨⟨key, value⟩, -, hline⟩ := List.mem_flatMap.mp hmem
  rcases List.mem_append.mp hline with hline | hline
  · exact return_not_mem_entryText key value hline
  · simp at hline

/-- Without carriage returns, every line break is a whole one. -/
theorem hasWholeBreaks_of_not_mem {cs : List Char} (h : '\r' ∉ cs) :
    hasWholeBreaks cs = true := by
  induction cs with
  | nil => rfl
  | cons c cs ih =>
    obtain ⟨hc, hcs⟩ : '\r' ≠ c ∧ '\r' ∉ cs := by simpa using h
    rw [hasWholeBreaks]
    · exact ih hcs
    · rintro rfl
      exact hc rfl

end Questionnaire.Toml
