import Questionnaire.Answer.Evaluate
import Questionnaire.Proofs.Answer.Reading

namespace Questionnaire.Answer

open Questionnaire.Expression (Token Builds rowTokens)

/-!
# Literals

A literal is a tree of constants, strings, lists and tuples.  It can be written in many ways; an
answer that writes it has exactly its value.

* `Literal`, `Literal.value` — the trees and their values.
* `Spells` — the texts that write a literal.
* `Means` — a text whose tokens build a value, whatever comes after it.
* `evaluate_spells` — an answer that spells a literal evaluates to its value, and so does the text
  of the value.
-/

/-! ### Meaning -/

/-- A text without blanks at its ends, whose tokens build a value in front of every rest. -/
structure Means (cs : List Char) (v : Value) : Prop where
  nonempty : cs ≠ []
  startsFull : Text.StartsFull cs
  endsFull : Text.StartsFull cs.reverse
  reads : ∃ ts, Builds ts v ∧ ∀ (opened : Bool) (rest : List Char) (more : List Token),
    IsDelimited rest → Reads false rest more →
      Reads opened (cs ++ rest) (lead opened ++ (ts ++ more))

/-- The same for items with commas between them, of which there is at least one. -/
def MeansRow (cs : List Char) (v : Value) (vs : List Value) : Prop :=
  ∃ ts tss, Builds ts v ∧ List.Forall₂ Builds tss vs ∧
    ∀ (opened : Bool) (rest : List Char) (more : List Token),
      IsDelimited rest → Reads false rest more →
        Reads opened (cs ++ rest) (lead opened ++ (ts ++ (rowTokens tss ++ more)))

/-- Blanks in front of the end of a literal keep it an end. -/
theorem isDelimited_gap {gap rest : List Char} (hgap : Text.IsGap gap) (hrest : IsDelimited rest) :
    IsDelimited (gap ++ rest) := by
  cases gap with
  | nil => exact hrest
  | cons c gap =>
    rintro d ⟨⟩
    exact Or.inl (hgap c (by simp))

/-- A comma or a closing bracket ends a literal. -/
theorem isDelimited_cons {c : Char} (h : c = ',' ∨ c = ']' ∨ c = ')') (rest : List Char) :
    IsDelimited (c :: rest) := by
  rintro d ⟨⟩
  exact Or.inr h

/-- Blanks may stand in front of a row. -/
theorem MeansRow.gap {cs : List Char} {v : Value} {vs : List Value} (h : MeansRow cs v vs)
    {gap : List Char} (hgap : Text.IsGap gap) : MeansRow (gap ++ cs) v vs := by
  obtain ⟨ts, tss, hts, htss, hreads⟩ := h
  refine ⟨ts, tss, hts, htss, fun opened rest more hrest hmore => ?_⟩
  rw [List.append_assoc]
  exact Reads.gap hgap (hreads opened rest more hrest hmore)

namespace Means

/-- The empty value, as it is written. -/
theorem none : Means "None".toList .none where
  nonempty := by decide
  startsFull := Text.startsFull_of_mem (List.all_iff_forall_prop.mp (by decide))
  endsFull := Text.startsFull_of_mem (List.all_iff_forall_prop.mp (by decide))
  reads := ⟨_, Builds.none, fun opened _ _ hrest hmore => Reads.none opened hrest hmore⟩

/-- A truth value, as it is written. -/
theorem bool (b : Bool) : Means (Value.written (.bool b)) (.bool b) where
  nonempty := by cases b <;> decide
  startsFull := Text.startsFull_of_mem (List.all_iff_forall_prop.mp (by cases b <;> decide))
  endsFull := Text.startsFull_of_mem (List.all_iff_forall_prop.mp (by cases b <;> decide))
  reads := ⟨_, Builds.constant _, fun opened _ _ hrest hmore => Reads.bool b opened hrest hmore⟩

/-- A decimal holds no blanks. -/
theorem isBlank_decimal (n : Nat) : ∀ c ∈ Text.decimal n, Text.isBlank c = false := fun c hc =>
  Text.isBlank_of_isDigit (Text.decimal_isDigit n c hc)

/-- A number that is not negative, as it is written. -/
theorem number {n : Nat} (h : n < Number.twoTo 63) :
    Means (Text.decimal n) (.int (Int64.ofNat n)) where
  nonempty := Text.decimal_ne_nil n
  startsFull := Text.startsFull_of_mem (isBlank_decimal n)
  endsFull := Text.startsFull_of_mem fun c hc => isBlank_decimal n c (List.mem_reverse.mp hc)
  reads := ⟨_, Builds.constant _, fun opened _ _ hrest hmore => Reads.number h opened hrest hmore⟩

/-- A negative number, with any gap behind the minus. -/
theorem negative {gap : List Char} (hgap : Text.IsGap gap) {n : Nat} (h : n < Number.twoTo 63) :
    Means ('-' :: (gap ++ Text.decimal n)) (.int (Int64.ofInt (-n))) where
  nonempty := by simp
  startsFull := Text.startsFull_cons (by decide) _
  endsFull := by
    intro c hc
    rw [← List.cons_append, List.reverse_append,
      List.head?_append_of_ne_nil _ (by simpa using Text.decimal_ne_nil n)] at hc
    exact isBlank_decimal n c (List.mem_reverse.mp (List.mem_of_mem_head? hc))
  reads := by
    -- The sign is a token of its own: the negation must not overflow, and for a number
    -- that is below the bound it does not.
    have hrange : (Int64.ofNat n).toInt = n := (Number.int64OfInt_eq (i := n) (by omega)).2
    have hnegated := (Number.int64OfInt_eq (i := -n) (by omega)).1
    rw [← hrange] at hnegated
    have hbuilds : Builds [.minus, .constant (.int (Int64.ofNat n))] (.int (Int64.ofInt (-n))) := by
      rw [← hrange]
      exact Builds.negative hnegated
    refine ⟨_, hbuilds, fun opened rest more hrest hmore => ?_⟩
    have hreads := Reads.negative hgap h opened hrest hmore
    rwa [← List.append_assoc gap] at hreads

/-- A string between quotes of either kind, with the escapes for that kind. -/
theorem quoted {quote : Char} (hquote : IsQuote quote) (s : String) :
    Means (quote :: escapeFor quote s.toList ++ [quote]) (.str s) where
  nonempty := by simp
  startsFull := Text.startsFull_cons (by rcases hquote with rfl | rfl <;> decide) _
  endsFull := Text.endsFull_concat (by rcases hquote with rfl | rfl <;> decide) _
  reads := by
    refine ⟨_, Builds.constant _, fun opened rest more _ hmore => ?_⟩
    rw [List.append_assoc]
    exact Reads.quoted hquote s opened hmore

/-- One item of a row. -/
theorem single {before cs after : List Char} {v : Value} (hbefore : Text.IsGap before)
    (h : Means cs v) (hafter : Text.IsGap after) : MeansRow (before ++ cs ++ after) v [] := by
  obtain ⟨ts, hbuilds, hreads⟩ := h.reads
  refine ⟨ts, [], hbuilds, .nil, fun opened rest more hrest hmore => ?_⟩
  rw [List.append_assoc, List.append_assoc]
  exact Reads.gap hbefore
    (hreads opened _ _ (isDelimited_gap hafter hrest) (Reads.gap hafter hmore))

/-- One item in front of others. -/
theorem cons {before cs after row : List Char} {v w : Value} {ws : List Value}
    (hbefore : Text.IsGap before) (h : Means cs v) (hafter : Text.IsGap after)
    (hrow : MeansRow row w ws) : MeansRow (before ++ cs ++ after ++ ',' :: row) v (w :: ws) := by
  obtain ⟨ts, hbuilds, hreads⟩ := h.reads
  obtain ⟨us, uss, hus, huss, hrowReads⟩ := hrow
  refine ⟨ts, us :: uss, hbuilds, .cons hus huss, fun opened rest more hrest hmore => ?_⟩
  -- Read from the right: first the other items, then the comma, then this item.
  have hitems : Reads false (row ++ rest) (us ++ (rowTokens uss ++ more)) :=
    hrowReads false rest more hrest hmore
  have hcomma : Reads false (',' :: (row ++ rest)) (rowTokens (us :: uss) ++ more) := by
    have hmark := Reads.mark ',' .comma (by simp) false hitems
    simpa [rowTokens, lead] using hmark
  have hdelimited := isDelimited_gap hafter (isDelimited_cons (Or.inl rfl) (row ++ rest))
  simpa using Reads.gap hbefore (hreads opened _ _ hdelimited (Reads.gap hafter hcomma))

/-- An empty list. -/
theorem empty (gap : List Char) (hgap : Text.IsGap gap) :
    Means ('[' :: gap ++ [']']) (.seq []) where
  nonempty := by simp
  startsFull := Text.startsFull_cons (by decide) _
  endsFull := Text.endsFull_concat (by decide) _
  reads := by
    refine ⟨_, Builds.list .nil, fun opened rest more _ hmore => ?_⟩
    -- The closing bracket takes away the comma that the opening one asks for.
    have hreads := Reads.opening opened (Reads.gap hgap (Reads.closing true hmore))
    simpa [rowTokens] using hreads

/-- A list of a row that has a meaning. -/
theorem list {row : List Char} {v : Value} {vs : List Value} (h : MeansRow row v vs) :
    Means ('[' :: row ++ [']']) (.seq (v :: vs)) where
  nonempty := by simp
  startsFull := Text.startsFull_cons (by decide) _
  endsFull := Text.endsFull_concat (by decide) _
  reads := by
    obtain ⟨ts, tss, hts, htss, hreads⟩ := h
    refine ⟨_, Builds.list (.cons hts htss), fun opened rest more _ hmore => ?_⟩
    -- The list has just been opened here, so the row starts with the comma of `lead true`.
    have hrow := hreads true (']' :: rest) (.closing :: more)
      (isDelimited_cons (Or.inr (Or.inl rfl)) rest) (Reads.closing false hmore)
    simpa [rowTokens, lead] using Reads.opening opened hrow

/-- A tuple of such a row, which has at least two items. -/
theorem tuple {row : List Char} {v w : Value} {ws : List Value} (h : MeansRow row v (w :: ws)) :
    Means ('(' :: row ++ [')']) (.seq (v :: w :: ws)) where
  nonempty := by simp
  startsFull := Text.startsFull_cons (by decide) _
  endsFull := Text.endsFull_concat (by decide) _
  reads := by
    obtain ⟨ts, tss, hts, htss, hreads⟩ := h
    -- One item in parentheses would be the item itself and not a tuple.
    have hne : tss ≠ [] := by rintro rfl; cases htss
    refine ⟨_, Builds.tuple hts htss hne, fun opened rest more _ hmore => ?_⟩
    have hrow := hreads false (')' :: rest) (.closing :: more)
      (isDelimited_cons (Or.inr (Or.inr rfl)) rest)
      (Reads.mark ')' .closing (by simp) false hmore)
    have hopened := Reads.mark '(' .opening (by simp) opened hrow
    simpa [lead] using hopened

end Means

/-! ### Trees -/

/-- A literal.  Integers have an absolute value below `2 ^ 63`, tuples at least two items. -/
inductive Literal where
  | none
  | bool (b : Bool)
  | int (i : Int) (range : i.natAbs < Number.twoTo 63)
  | str (s : String)
  | list (items : List Literal)
  | tuple (first second : Literal) (more : List Literal)

namespace Literal

mutual

/-- The value that a literal denotes; tuples and lists are sequences alike. -/
def value : Literal → Value
  | none => .none
  | bool b => .bool b
  | int i _ => .int (Int64.ofInt i)
  | str s => .str s
  | list items => .seq (values items)
  | tuple first second more => .seq (value first :: value second :: values more)

/-- The values of several literals. -/
def values : List Literal → List Value
  | [] => []
  | item :: more => value item :: values more

end

end Literal

/-! ### Texts of a tree -/

mutual

/-- A text that writes a literal.  Blanks may stand between any two tokens, and each string has
    quotes of its own choice. -/
inductive Spells : Literal → List Char → Prop
  | none : Spells .none "None".toList
  | true : Spells (.bool true) "True".toList
  | false : Spells (.bool false) "False".toList
  | number (n : Nat) (range : (n : Int).natAbs < Number.twoTo 63) :
    Spells (.int n range) (Text.decimal n)
  | negative (n : Nat) (range : (-n : Int).natAbs < Number.twoTo 63) (gap : List Char) :
    0 < n → Text.IsGap gap → Spells (.int (-n) range) ('-' :: (gap ++ Text.decimal n))
  | str (s : String) (quote : Char) :
    IsQuote quote → Spells (.str s) (quote :: escapeFor quote s.toList ++ [quote])
  | empty (gap : List Char) : Text.IsGap gap → Spells (.list []) ('[' :: gap ++ [']'])
  | list {item : Literal} {more : List Literal} {row : List Char} :
    SpellsRow item more row → Spells (.list (item :: more)) ('[' :: row ++ [']'])
  | tuple {first second : Literal} {more : List Literal} {row : List Char} :
    SpellsRow first (second :: more) row →
      Spells (.tuple first second more) ('(' :: row ++ [')'])

/-- A text that writes a literal and more literals behind it, with commas between them. -/
inductive SpellsRow : Literal → List Literal → List Char → Prop
  | last {item : Literal} {before cs after : List Char} :
    Text.IsGap before → Spells item cs → Text.IsGap after →
      SpellsRow item [] (before ++ cs ++ after)
  | cons {item next : Literal} {more : List Literal} {before cs after row : List Char} :
    Text.IsGap before → Spells item cs → Text.IsGap after → SpellsRow next more row →
      SpellsRow item (next :: more) (before ++ cs ++ after ++ ',' :: row)

end

mutual

/-- A text that spells a literal means its value. -/
theorem Spells.means {l : Literal} {cs : List Char} : Spells l cs → Means cs l.value
  | .none => Means.none
  | .true => Means.bool Bool.true
  | .false => Means.bool Bool.false
  | .number n range => Means.number (by omega)
  | .negative n range _ _ hgap => Means.negative hgap (by omega)
  | .str s _ hquote => Means.quoted hquote s
  | .empty gap hgap => Means.empty gap hgap
  | .list hrow => Means.list hrow.means
  | .tuple hrow => Means.tuple hrow.means

/-- A row of spelled literals means the row of their values. -/
theorem SpellsRow.means {l : Literal} {ls : List Literal} {cs : List Char} :
    SpellsRow l ls cs → MeansRow cs l.value (Literal.values ls)
  | .last hbefore h hafter => Means.single hbefore h.means hafter
  | .cons hbefore h hafter hrow => Means.cons hbefore h.means hafter hrow.means

end

/-! ### Written values -/

/-- What is escaped for double quotes is what the writer of values escapes. -/
theorem escape_eq_escapeFor (cs : List Char) : Value.escape cs = escapeFor '"' cs := by
  induction cs with
  | nil => rfl
  | cons c cs ih =>
    rw [Value.escape, escapeFor, List.flatMap_cons, ← escapeFor, ih, Bool.or_comm]
    split <;> rfl

/-- A string is written between double quotes. -/
theorem Means.writtenStr (s : String) : Means (Value.writtenStr s) (.str s) := by
  rw [Value.writtenStr, escape_eq_escapeFor]
  exact Means.quoted (Or.inl rfl) s

/-- An integer means itself where it is written. -/
theorem Means.writtenInt {i : Int} (range : i.natAbs < Number.twoTo 63) :
    Means (Value.writtenInt (Int64.ofInt i)) (.int (Int64.ofInt i)) := by
  rw [Value.writtenInt, Text.signedDecimal, (Number.int64OfInt_eq range).2]
  split
  · -- there is no gap between the sign and the digits of a written number
    obtain ⟨n, rfl⟩ : ∃ n : Nat, i = -n := ⟨i.natAbs, by omega⟩
    rw [Int.natAbs_neg, Int.natAbs_natCast]
    show Means ('-' :: ([] ++ Text.decimal n)) _
    exact Means.negative (by simp [Text.IsGap]) (by omega)
  · obtain ⟨n, rfl⟩ : ∃ n : Nat, i = n := ⟨i.natAbs, by omega⟩
    exact Means.number (by omega)

/-- Items whose texts have meanings are written as a row of these. -/
theorem meansRow_written {v w : Value} {vs ws : List Value} (h : Means v.written w)
    (hs : List.Forall₂ (fun v w => Means v.written w) vs ws) :
    MeansRow (Value.writtenItems (v :: vs)) w ws := by
  have hnone : Text.IsGap [] := by simp [Text.IsGap]
  have hspace : Text.IsGap [' '] := by simp [Text.IsGap, Text.isBlank]
  -- The first item changes from step to step, and it is not part of the lists of the induction.
  induction hs generalizing v w with
  | nil =>
    have hrow := Means.single hnone h hnone
    simpa [Value.writtenItems] using hrow
  | cons hnext _ ih =>
    -- a comma is written with a blank behind it, which is a gap in front of the next item
    have hrow := Means.cons hnone h hnone ((ih hnext).gap hspace)
    simpa [Value.writtenItems] using hrow

/-- A list is written in brackets. -/
theorem means_writtenList {vs ws : List Value}
    (hs : List.Forall₂ (fun v w => Means v.written w) vs ws) :
    Means (Value.written (.seq vs)) (.seq ws) := by
  cases hs with
  | nil => exact Means.empty [] (by simp [Text.IsGap])
  | cons h hs => exact Means.list (meansRow_written h hs)

mutual

/-- The value of a literal is written as a text that means it; tuples are written as lists. -/
theorem Literal.means_written : (l : Literal) → Means l.value.written l.value
  | .none => Means.none
  | .bool b => Means.bool b
  | .int _ range => Means.writtenInt range
  | .str s => Means.writtenStr s
  | .list items => means_writtenList (Literal.all_means_written items)
  | .tuple first second more =>
    means_writtenList (.cons (Literal.means_written first)
      (.cons (Literal.means_written second) (Literal.all_means_written more)))

/-- Literals mean their values where these are written, one by one. -/
theorem Literal.all_means_written : (items : List Literal) →
    List.Forall₂ (fun v w => Means v.written w) (Literal.values items) (Literal.values items)
  | [] => .nil
  | item :: more => .cons (Literal.means_written item) (Literal.all_means_written more)

end

/-! ### Evaluation -/

/-- An answer with a meaning has that value, unless it is the name of a function. -/
theorem Means.evaluate {cs : List Char} {v : Value} (h : Means cs v) {before after : List Char}
    (hbefore : Text.IsGap before) (hafter : Text.IsGap after) {functions : List String}
    (hname : (isIdentifier cs && functions.contains (String.ofList cs)) = false) :
    Answer.evaluate functions (String.ofList (before ++ cs ++ after)) = .ok v := by
  obtain ⟨ts, hbuilds, hreads⟩ := h.reads
  have htrim : Text.trim (String.ofList (before ++ cs ++ after)).toList = cs := by
    rw [String.toList_ofList]
    exact Text.trim_padded hbefore hafter h.nonempty h.startsFull h.endsFull
  -- At the end of the answer nothing follows, so the tokens are those of the literal alone.
  obtain ⟨code, hcode, htokens⟩ : Reads false cs ts := by
    have hall := hreads false [] [] (by rintro c ⟨⟩) Reads.nil
    simpa [lead] using hall
  rw [expressionFrom_eq_expression] at hcode
  have htrimmed : evaluateTrimmed functions cs = .ok v := by
    rw [evaluateTrimmed, hname, if_neg (by simp), hcode]
    simp only [hbuilds.evaluate htokens]
    rfl
  -- An empty answer is read differently; a text with a meaning is never empty.
  rw [Answer.evaluate, htrim]
  cases cs with
  | nil => exact absurd rfl h.nonempty
  | cons c cs => exact htrimmed

/-- A string is never the name of a function. -/
theorem evaluate_str (functions : List String) (s : String) :
    evaluate functions (Value.text (.str s)) = .ok (.str s) := by
  have hnone : Text.IsGap [] := by simp [Text.IsGap]
  have hname : isIdentifier (Value.writtenStr s) = false := by
    simp [Value.writtenStr, isIdentifier, show Char.isAlpha '"' = false by decide]
  have hname' : (isIdentifier (Value.writtenStr s)
      && functions.contains (String.ofList (Value.writtenStr s))) = false := by
    rw [hname, Bool.false_and]
  have htext := (Means.writtenStr s).evaluate hnone hnone hname'
  simpa [Value.text, Value.written] using htext

/-- **Literals.** An answer that spells a literal, with any blanks around it, has the value of the
    literal, and so has the text of that value.  Only the name of a function comes first. -/
theorem evaluate_spells (l : Literal) (functions : List String) :
    (∀ before cs after, Spells l cs → Text.IsGap before → Text.IsGap after →
      functions.contains (String.ofList cs) = false →
        evaluate functions (String.ofList (before ++ cs ++ after)) = .ok l.value)
      ∧ (functions.contains l.value.text = false →
        evaluate functions l.value.text = .ok l.value) := by
  constructor
  · intro before cs after hspells hbefore hafter hname
    exact hspells.means.evaluate hbefore hafter (by rw [hname, Bool.and_false])
  · intro hname
    have hnone : Text.IsGap [] := by simp [Text.IsGap]
    have htext := l.means_written.evaluate hnone hnone (by
      rw [← Value.text, hname, Bool.and_false])
    simpa [Value.text] using htext

/-- Brackets, quotes and keywords inside a string stay as they are. -/
theorem evaluate_spells_nested :
    Spells (.list [.str "]\"None['", .tuple .none (.int (-5) (by decide)) []])
        "[ ']\"None[\\'', (None ,- 5)]".toList
      ∧ evaluate ["None"] " [ ']\"None[\\'', (None ,- 5)]"
        = .ok (.seq [.str "]\"None['", .seq [.none, .int (-5)]]) := by
  have hnone : Text.IsGap [] := by simp [Text.IsGap]
  have hspace : Text.IsGap [' '] := by simp [Text.IsGap, Text.isBlank]
  have htuple : SpellsRow .none [.int (-5) (by decide)] "None ,- 5".toList :=
    .cons hnone .none hspace (.last hnone (.negative 5 (by decide) [' '] (by decide) hspace) hnone)
  have hrow : SpellsRow (.str "]\"None['") [.tuple .none (.int (-5) (by decide)) []]
      " ']\"None[\\'', (None ,- 5)".toList :=
    .cons hspace (.str "]\"None['" '\x27' (Or.inr rfl)) hnone (.last hspace (.tuple htuple) hnone)
  have hspells : Spells (.list [.str "]\"None['", .tuple .none (.int (-5) (by decide)) []])
      "[ ']\"None[\\'', (None ,- 5)]".toList := .list hrow
  refine ⟨hspells, ?_⟩
  have hvalue := (evaluate_spells _ ["None"]).1 [' '] _ [] hspells hspace hnone (by decide)
  simpa [Literal.value, Literal.values] using hvalue

end Questionnaire.Answer
