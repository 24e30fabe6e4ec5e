import Questionnaire.Proofs.Number
import Questionnaire.Proofs.ValueType.Split
import Questionnaire.ValueType.Read

namespace Questionnaire

/-!
# Members of literals and bounds of ranges

* `ValueType.readLiteral_written` — a member of a literal type is read as it is written.
* `ValueType.PrintsBound` — a bound whose text is read as a number that is the same.
* `ValueType.rereadBound` — a bound as its text tells.
* `ValueType.ReadsBound`, `ValueType.IsBound` — a text that is read as a bound, and one that is read
  as a bound tells.
* `ValueType.readRange_range` — the texts of its bounds are found in a range.
-/

/-! ### Members of literals -/

/-- A value that a literal type can be written with: a string has neither quotes nor escapes. -/
def Value.IsMember : Value → Prop
  | .none | .bool _ | .int _ => True
  | .str s => '"' ∉ s.toList ∧ '\\' ∉ s.toList
  | _ => False

namespace ValueType

open Number (IsNumeral)

/-- A text without quotes and backslashes needs no escapes. -/
theorem escape_eq {cs : List Char} (hquote : '"' ∉ cs) (hescape : '\\' ∉ cs) :
    Value.escape cs = cs := by
  induction cs with
  | nil => rfl
  | cons c cs ih =>
    obtain ⟨hc, hquote⟩ : '"' ≠ c ∧ '"' ∉ cs := by simpa using hquote
    obtain ⟨hc', hescape⟩ : '\\' ≠ c ∧ '\\' ∉ cs := by simpa using hescape
    rw [Value.escape, if_neg (by simp [hc.symm, hc'.symm]), ih hquote hescape]

/-- The characters of a number neither open nor close nor split anything. -/
theorem ordinary_of_numeral {c : Char} (h : IsNumeral c) : IsOrdinary c := by
  have hmarks : (['"', '\x27', '[', ']', '(', ')', ','].all fun d => !decide (IsNumeral d)) = true :=
    by decide
  intro hmem
  simpa [h] using List.all_eq_true.mp hmarks c hmem

/-- A number may stand in a row of arguments. -/
theorem isArgument_of_numeral {cs : List Char} (hne : cs ≠ []) (h : ∀ c ∈ cs, IsNumeral c) :
    IsArgument cs :=
  IsWord.argument ⟨hne, fun c hc => ⟨ordinary_of_numeral (h c hc), (h c hc).notBlank⟩⟩

/-- An integer has at least one digit. -/
theorem signedDecimal_ne_nil (i : Int) : Text.signedDecimal i ≠ [] := by
  rw [Text.signedDecimal]
  split
  · simp
  · exact Text.decimal_ne_nil _

/-- A member of a literal type can stand in a row. -/
theorem isArgument_member {v : Value} (h : v.IsMember) : IsArgument v.written := by
  cases v with
  | none => exact IsWord.argument (by decide)
  | bool b => cases b <;> exact IsWord.argument (by decide)
  | int i => exact isArgument_of_numeral (signedDecimal_ne_nil _) (Number.isNumeral_signedDecimal _)
  | str s =>
    rw [Value.written, Value.writtenStr, escape_eq h.1 h.2]
    exact ⟨passes_quoted h.1, by simp, Text.startsFull_cons (by decide) _,
      Text.endsFull_concat (by decide) _⟩
  | float x => exact h.elim
  | seq items => exact h.elim
  | function name => exact h.elim

/-- A numeral is none of the words that literals and bounds know. -/
theorem beq_word_of_numeral {cs : List Char} (h : ∀ c ∈ cs, IsNumeral c) {words : List String}
    (hwords : (words.all fun word => word.toList.any fun c => !decide (IsNumeral c)) = true) :
    ∀ word ∈ words, (String.ofList cs == word) = false := by
  intro word hmem
  rw [beq_eq_false_iff_ne]
  rintro rfl
  obtain ⟨c, hc, hno⟩ := List.any_eq_true.mp (List.all_eq_true.mp hwords _ hmem)
  rw [String.toList_ofList] at hc
  simp [h c hc] at hno

/-- A number has no quotes to be taken off. -/
theorem unquote_of_numeral {cs : List Char} (h : ∀ c ∈ cs, IsNumeral c) : unquote? cs = none := by
  cases cs with
  | nil => rfl
  | cons c cs =>
    have hordinary := ordinary_of_numeral (h c List.mem_cons_self)
    simp only [IsOrdinary, List.mem_cons, not_or] at hordinary
    simp [unquote?, hordinary.1, hordinary.2.1]

/-- A member of a literal type is read as it is written. -/
theorem readLiteral_written {v : Value} (h : v.IsMember) : readLiteral v.written = .ok v := by
  have htrim := (isArgument_member h).trim
  cases v with
  | none => rfl
  | bool b => cases b <;> rfl
  -- A number is neither one of the words nor quoted, so it is tried as an integer.
  | int i =>
    have hnumeral := Number.isNumeral_signedDecimal i.toInt
    have hread := Number.readInt_signedDecimal i
    have hword : ∀ word ∈ ["True", "true", "False", "false", "None"],
        (String.ofList (Text.signedDecimal i.toInt) == word) = false :=
      beq_word_of_numeral hnumeral (by decide)
    rw [Value.written, Value.writtenInt] at htrim ⊢
    unfold readLiteral
    rw [htrim]
    simp [unquote_of_numeral hnumeral, hword, hread]
  -- Between its quotes a string without quotes and backslashes stands as it is.
  | str s =>
    rw [Value.written, Value.writtenStr, escape_eq h.1 h.2] at htrim ⊢
    unfold readLiteral
    rw [htrim]
    simp [unquote?]
  | float x => exact h.elim
  | seq items => exact h.elim
  | function name => exact h.elim

/-! ### Bounds -/

/-- A bound that can be written: the text of a finite number is read as a number that is the same. -/
def PrintsBound (same : Float → Float → Prop) : Option Float → Prop
  | none => True
  | some x => x.isFinite = true
    ∧ ∃ y, Number.readFloat? (writtenBound [] (some x)) = some y ∧ same y x

/-- A bound as its text tells. -/
def rereadBound (bound : Option Float) : Option Float :=
  bound.bind fun x => Number.readFloat? (writtenBound [] (some x))

/-- A bound that is there is written as a number. -/
theorem isNumeral_writtenBound {x : Float} (h : x.isFinite = true) :
    ∀ c ∈ writtenBound [] (some x), IsNumeral c := by
  rw [writtenBound]
  split
  · exact Number.isNumeral_signedDecimal _
  · exact Number.isNumeral_plain h

/-- A numeral has no quotes to be trimmed. -/
theorem trimQuotes_of_numeral {cs : List Char} (h : ∀ c ∈ cs, IsNumeral c) :
    trimQuotes cs = cs := by
  have hdrop (ds : List Char) (hds : ∀ c ∈ ds, IsNumeral c) :
      ds.dropWhile (fun c => c == '"' || c == '\x27') = ds := by
    cases ds with
    | nil => rfl
    | cons c ds =>
      have hordinary := ordinary_of_numeral (hds c List.mem_cons_self)
      simp only [IsOrdinary, List.mem_cons, not_or] at hordinary
      simp [hordinary.1, hordinary.2.1]
  have hreverse : ∀ c ∈ cs.reverse, IsNumeral c := fun c hc => h c (List.mem_reverse.mp hc)
  rw [trimQuotes, hdrop cs h, hdrop _ hreverse, List.reverse_reverse]

/-- A bound that can be written may stand in a row. -/
theorem isArgument_bound {same : Float → Float → Prop} {x : Float}
    (h : PrintsBound same (some x)) : IsArgument (writtenBound [] (some x)) := by
  obtain ⟨hfinite, y, hread, -⟩ := h
  refine isArgument_of_numeral ?_ (isNumeral_writtenBound hfinite)
  intro hnil
  rw [hnil] at hread
  cases hread

/-- A numeral is read as the number that it writes, also with a blank in front. -/
theorem readBound_of_numeral {cs ds : List Char} (hnumeral : ∀ c ∈ cs, IsNumeral c) {x : Float}
    (hread : Number.readFloat? cs = some x) (hds : Text.trim ds = cs) :
    readBound ds = .ok (some x) := by
  have hword : ∀ word ∈ ["∞", "inf", "-∞", "-inf"], (String.ofList cs == word) = false :=
    beq_word_of_numeral hnumeral (by decide)
  rw [readBound, hds, trimQuotes_of_numeral hnumeral]
  simp [hword, hread]

/-- A bound is read as its text tells. -/
theorem readBound_some {same : Float → Float → Prop} {x : Float} (h : PrintsBound same (some x))
    {cs : List Char} (hcs : Text.trim cs = writtenBound [] (some x)) :
    readBound cs = .ok (rereadBound (some x)) := by
  obtain ⟨hfinite, y, hread, -⟩ := h
  rw [readBound_of_numeral (isNumeral_writtenBound hfinite) hread hcs]
  exact congrArg Except.ok hread.symm

/-! ### Ranges -/

variable {same : Float → Float → Prop} {low high : Option Float}

/-- A text between the parentheses of a range: it has no commas, and is read as a bound. -/
structure ReadsBound (cs : List Char) (bound : Option Float) : Prop where
  argument : IsArgument cs
  ordinary : ∀ c ∈ cs, IsOrdinary c
  reads : ∀ ds, Text.trim ds = cs → readBound ds = .ok bound

/-- A text that stands for a bound. -/
structure IsBound (cs : List Char) (bound : Option Float) : Prop where
  argument : IsArgument cs
  ordinary : ∀ c ∈ cs, IsOrdinary c
  reads : ∀ ds, Text.trim ds = cs → readBound ds = .ok (rereadBound bound)

/-- A text that stands for a bound is read as that text tells. -/
theorem IsBound.readsBound {cs : List Char} (h : IsBound cs low) :
    ReadsBound cs (rereadBound low) := ⟨h.argument, h.ordinary, h.reads⟩

/-- A number that can be read is read as a bound. -/
theorem readsBound_of_numeral {cs : List Char} (hne : cs ≠ []) (hnumeral : ∀ c ∈ cs, IsNumeral c)
    {x : Float} (hread : Number.readFloat? cs = some x) : ReadsBound cs (some x) where
  argument := isArgument_of_numeral hne hnumeral
  ordinary c hc := ordinary_of_numeral (hnumeral c hc)
  reads _ hds := readBound_of_numeral hnumeral hread hds

/-- A bound that is there is written as a text that stands for it. -/
theorem isBound_some {x : Float} (h : PrintsBound same (some x)) :
    IsBound (writtenBound [] (some x)) (some x) where
  argument := isArgument_bound h
  ordinary c hc := ordinary_of_numeral (isNumeral_writtenBound h.1 c hc)
  reads _ hds := readBound_some h hds

/-- An open bound is written as a word that stands for it. -/
theorem isBound_none {cs : List Char} (h : cs = "-∞".toList ∨ cs = "∞".toList) :
    IsBound cs none := by
  have hword : IsWord cs := by rcases h with rfl | rfl <;> decide
  refine ⟨hword.argument, fun c hc => (hword.2 c hc).1, fun ds hds => ?_⟩
  rw [readBound, hds]
  rcases h with rfl | rfl <;> rfl

/-- A bound is written as a text that stands for it; for a missing one that is an infinity. -/
theorem isBound_written (h : PrintsBound same low) {whenOpen : List Char}
    (hopen : whenOpen = "-∞".toList ∨ whenOpen = "∞".toList) :
    IsBound (writtenBound whenOpen low) low := by
  cases low with
  | none => exact isBound_none hopen
  | some x => exact isBound_some h

/-- The name of an annotation. -/
def rangeName : List Char := "ValueRange".toList

/-- The annotation of a type with the texts of its bounds. -/
def range (low high : List Char) : List Char :=
  rangeName ++ ('(' :: (low ++ ',' :: ' ' :: high) ++ [')'])

/-- The annotation of two bounds may stand in a row. -/
theorem isArgument_range {cs ds : List Char} (hlow : ReadsBound cs low)
    (hhigh : ReadsBound ds high) : IsArgument (range cs ds) := by
  have hname : IsArgument rangeName := IsWord.argument (by decide)
  refine hname.append (Passes.parentheses ?_) (by decide)
  exact hlow.argument.passes.inside.append (passes_comma.append
    ((passes_char (by decide)).append hhigh.argument.passes.inside))

/-- The bounds are found between the parentheses; the blank behind the comma stays. -/
theorem readRange_range {cs ds : List Char} (hlow : ReadsBound cs low)
    (hhigh : ReadsBound ds high) : readRange? (range cs ds) = some (cs, ' ' :: ds) := by
  have hcomma {es : List Char} (h : ∀ c ∈ es, IsOrdinary c) : ',' ∉ es := fun hmem =>
    absurd (h ',' hmem) (by decide)
  have hcontent : (Text.after? "ValueRange(".toList (range cs ds)).bind (Text.before? [')'])
      = some (cs ++ ',' :: ' ' :: ds) := by
    have hname : "ValueRange(".toList = rangeName ++ ['('] := by decide
    have htext : range cs ds = "ValueRange(".toList ++ ((cs ++ ',' :: ' ' :: ds) ++ [')']) := by
      simp only [range, hname, List.append_assoc, List.cons_append, List.nil_append]
    rw [htext, Text.after_append, Option.bind_some, Text.before_append]
  have hplain : ∀ c ∈ cs, (c != ',') = true := by
    intro c hc
    simpa using ne_of_mem_of_not_mem hc (hcomma hlow.ordinary)
  rw [readRange?, hcontent]
  dsimp only
  rw [List.takeWhile_append_of_pos hplain, List.dropWhile_append_of_pos hplain]
  have hhigh' := hcomma hhigh.ordinary
  simp [hlow.argument.nonempty, hhigh']

end ValueType

end Questionnaire
