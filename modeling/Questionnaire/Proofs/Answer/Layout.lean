import Questionnaire.Proofs.Answer.Code
import Questionnaire.Proofs.Expression.Token

namespace Questionnaire.Answer

open Questionnaire.Expression (flush lexemes lexemesFrom)

/-!
# Literals in an answer

Read from left to right, an answer is code and string literals in turn.  A literal begins at a quote
of either kind and ends at the next one of this kind that does not stand behind a backslash.  The
expression of the answer has the same layout: its code is the adapted code, and its literals stand
between double quotes and say the same.

* `Layout` — code and literals in turn.
* `Layout.IsOf` — a text is laid out in this way.
* `LeavesOpen` — the last literal of a text is never closed.
* `Layout.IsOf.unique`, `exists_layout` — a text is laid out in one way, or leaves a literal open.
* `expression_layout` — an answer that leaves no literal open has an expression, and how both are
  laid out.
-/

/-! ### Specification -/

/-- A character between quotes, with the backslash in front of it, if there is one. -/
inductive Mark where
  | plain (c : Char)
  | escaped (c : Char)

namespace Mark

/-- A character as it stands between quotes. -/
def text : Mark → List Char
  | plain c => [c]
  | escaped c => ['\\', c]

/-- The character itself. -/
def char : Mark → Char
  | plain c | escaped c => c

/-- A character as it stands between double quotes.  A single quote needs no backslash there, and a
    double quote needs one. -/
def adapted : Mark → Mark
  | plain c => if c = '"' then escaped c else plain c
  | escaped c => if c = '\x27' then plain c else escaped c

/-- Neither the quote around a literal nor a backslash stands in it by itself. -/
def Fits (quote : Char) : Mark → Prop
  | plain c => c ≠ quote ∧ c ≠ '\\'
  | escaped _ => True

/-- A backslash stands only in front of a backslash or a quote. -/
def IsSimple : Mark → Prop
  | plain _ => True
  | escaped c => c = '\\' ∨ IsQuote c

end Mark

/-- A string literal: the quote around it and the characters inside. -/
structure Quotation where
  quote : Char
  marks : List Mark

namespace Quotation

/-- What stands between the quotes. -/
def inside (q : Quotation) : List Char := q.marks.flatMap Mark.text

/-- The literal with its quotes. -/
def text (q : Quotation) : List Char := q.quote :: (q.inside ++ [q.quote])

/-- The characters that a literal says, if backslashes stand only where they are needed. -/
def chars (q : Quotation) : List Char := q.marks.map Mark.char

/-- The literal between double quotes. -/
def adapted (q : Quotation) : Quotation := ⟨'"', q.marks.map Mark.adapted⟩

/-- A literal that its quote closes, and not before its end. -/
structure IsProper (q : Quotation) : Prop where
  quote : IsQuote q.quote
  marks : ∀ mark ∈ q.marks, mark.Fits q.quote

/-- Backslashes stand only where they stand for themselves or a quote. -/
def IsSimple (q : Quotation) : Prop := ∀ mark ∈ q.marks, mark.IsSimple

end Quotation

/-- Code and literals in turn: pairs of code and the literal behind it, and the code at the end. -/
structure Layout where
  front : List (List Char × Quotation)
  last : List Char

/-- Whether a character is a quote can be decided. -/
instance : DecidablePred IsQuote := fun _ => inferInstanceAs (Decidable (_ ∨ _))

/-- Code that holds no quotes. -/
def IsBare (code : List Char) : Prop := ∀ c ∈ code, ¬ IsQuote c

/-- Whether code holds no quotes can be decided. -/
instance : DecidablePred IsBare := fun code => List.decidableBAll _ code

namespace Layout

/-- The text that is laid out. -/
def text (l : Layout) : List Char := l.front.flatMap (fun pair => pair.1 ++ pair.2.text) ++ l.last

/-- Quotes stand only around literals, and literals are closed by them. -/
structure IsProper (l : Layout) : Prop where
  front : ∀ pair ∈ l.front, IsBare pair.1 ∧ pair.2.IsProper
  last : IsBare l.last

/-- A text is laid out in this way. -/
def IsOf (l : Layout) (cs : List Char) : Prop := l.IsProper ∧ l.text = cs

/-- The literals in order. -/
def quotations (l : Layout) : List Quotation := l.front.map Prod.snd

/-- Each piece of code is adapted by itself, and so is each literal. -/
def adapted (l : Layout) : Layout where
  front := l.front.map fun pair => (reworded (listed true pair.1), pair.2.adapted)
  last := reworded (listed false l.last)

end Layout

/-- Behind closed literals, a text goes on with a literal that is not closed: only a backslash may
    follow its characters. -/
def LeavesOpen (cs : List Char) : Prop :=
  ∃ (l : Layout) (q : Quotation) (rest : List Char), l.IsProper ∧ q.IsProper
    ∧ (rest = [] ∨ rest = ['\\']) ∧ cs = l.text ++ q.quote :: (q.inside ++ rest)

/-- Wherever it stands in an expression, a text is read as a string. -/
def Denotes (cs : List Char) (s : String) : Prop := ∀ word rest,
  lexemesFrom .code word (cs ++ rest) = (flush word <| .quoted s :: ·) <$> lexemes rest

/-! ### Cutting what is laid out -/

variable {quote : Char} {marks : List Mark} {q : Quotation} {l : Layout} {cs : List Char}

/-- A quote of either kind opens a literal. -/
theorem IsQuote.opens (h : IsQuote quote) : (quote == '"' || quote == '\x27') = true := by
  rcases h with rfl | rfl <;> rfl

/-- A quote is no backslash. -/
theorem IsQuote.ne_backslash (h : IsQuote quote) : quote ≠ '\\' := by
  rcases h with rfl | rfl <;> decide

/-- A character that is no backslash closes the literal or belongs to it. -/
theorem stretchesFrom_unescaped {c : Char} (hc : c ≠ '\\') (quote : Char) (acc rest : List Char) :
    stretchesFrom (some quote) acc (c :: rest)
      = if c == quote then (.literal acc.reverse :: ·) <$> stretchesFrom none [] rest
        else stretchesFrom (some quote) (if c == '"' then '"' :: '\\' :: acc else c :: acc)
          rest := by
  rw [stretchesFrom]
  rintro d rest rfl
  exact absurd rfl hc

/-- One character of a literal is read. -/
theorem stretchesFrom_mark {mark : Mark} (h : mark.Fits quote) (acc rest : List Char) :
    stretchesFrom (some quote) acc (mark.text ++ rest)
      = stretchesFrom (some quote) (mark.adapted.text.reverse ++ acc) rest := by
  cases mark with
  | plain c =>
    obtain ⟨hc, hbackslash⟩ := h
    rw [Mark.text, List.singleton_append, stretchesFrom_unescaped hbackslash,
      if_neg (by simpa using hc)]
    by_cases hdouble : c = '"' <;> simp [Mark.adapted, Mark.text, hdouble]
  | escaped c =>
    by_cases hsingle : c = '\x27' <;> simp [Mark.adapted, Mark.text, stretchesFrom, hsingle]

/-- The characters of a literal are read one after the other. -/
theorem stretchesFrom_inside (h : q.IsProper) (acc rest : List Char) :
    stretchesFrom (some q.quote) acc (q.inside ++ rest)
      = stretchesFrom (some q.quote) (q.adapted.inside.reverse ++ acc) rest := by
  obtain ⟨quote, marks⟩ := q
  replace h := h.marks
  dsimp only [Quotation.inside, Quotation.adapted] at h ⊢
  induction marks generalizing acc with
  | nil => rfl
  | cons mark marks ih =>
    obtain ⟨hmark, hmarks⟩ := List.forall_mem_cons.mp h
    rw [List.flatMap_cons, List.append_assoc, stretchesFrom_mark hmark, ih _ hmarks, List.map_cons,
      List.flatMap_cons, List.reverse_append, List.append_assoc]

/-- What is read of a text that begins with a literal. -/
theorem stretchesFrom_quotation (h : q.IsProper) (acc rest : List Char) :
    stretchesFrom none acc (q.text ++ rest)
      = (stretchesFrom none [] rest).map ([.code acc.reverse, .literal q.adapted.inside] ++ ·) := by
  rw [Quotation.text, List.cons_append, List.append_assoc, stretchesFrom, if_pos h.quote.opens,
    stretchesFrom_inside h, List.singleton_append, stretchesFrom_unescaped h.quote.ne_backslash,
    if_pos (by simp)]
  simp [Function.comp_def]

/-- What is read of a text behind code and literals. -/
theorem stretchesFrom_front {front : List (List Char × Quotation)}
    (h : ∀ pair ∈ front, IsBare pair.1 ∧ pair.2.IsProper) (cs : List Char) :
    stretchesFrom none [] (front.flatMap (fun pair => pair.1 ++ pair.2.text) ++ cs)
      = (stretchesFrom none [] cs).map
          (front.flatMap (fun pair => [.code pair.1, .literal pair.2.adapted.inside]) ++ ·) := by
  induction front with
  | nil => simp
  | cons pair front ih =>
    obtain ⟨⟨hcode, hq⟩, hfront⟩ := List.forall_mem_cons.mp h
    rw [List.flatMap_cons, List.append_assoc, List.append_assoc,
      stretchesFrom_append fun c hc => not_or.mp (hcode c hc), stretchesFrom_quotation hq,
      ih hfront]
    simp [Function.comp_def]

/-- Code without quotes is one piece. -/
theorem stretchesFrom_bare {code : List Char} (h : IsBare code) :
    stretchesFrom none [] code = some [.code code] := by
  have hall := stretchesFrom_append (fun c hc => not_or.mp (h c hc)) [] []
  rw [List.append_nil] at hall
  rw [hall]
  simp [stretchesFrom]

/-- The pieces are joined to the adapted text. -/
theorem joined_front (front : List (List Char × Quotation)) (last : List Char) :
    joined (front.flatMap (fun pair => [.code pair.1, .literal pair.2.adapted.inside])
        ++ [.code last]) = (Layout.mk front last).adapted.text := by
  induction front with
  | nil => simp [joined, Layout.adapted, Layout.text, codeExpression_eq]
  | cons pair front ih =>
    have hfront : (Layout.mk (pair :: front) last).adapted.text
        = reworded (listed true pair.1) ++ (pair.2.adapted.text
          ++ (Layout.mk front last).adapted.text) := by
      simp [Layout.adapted, Layout.text]
    rw [hfront, ← ih, ← codeExpression_eq]
    simp [joined, Quotation.text, Quotation.adapted]

/-- The expression of an answer that is laid out. -/
theorem expression_of_layout (h : l.IsOf cs) : expression? cs = some l.adapted.text := by
  obtain ⟨hproper, rfl⟩ := h
  rw [expression?, stretches?, Layout.text, stretchesFrom_front hproper.front,
    stretchesFrom_bare hproper.last, Option.map_some, Option.map_some, joined_front]

/-- An answer that leaves a literal open has no expression. -/
theorem expression_of_leavesOpen (h : LeavesOpen cs) : expression? cs = none := by
  obtain ⟨l, q, rest, hl, hq, hrest, rfl⟩ := h
  have hnone (acc : List Char) : stretchesFrom (some q.quote) acc rest = none := by
    rcases hrest with rfl | rfl
    · rfl
    · simp [stretchesFrom, hq.quote.ne_backslash.symm]
  rw [expression?, stretches?, Layout.text, List.append_assoc, stretchesFrom_front hl.front,
    stretchesFrom_append fun c hc => not_or.mp (hl.last c hc), stretchesFrom, if_pos hq.quote.opens,
    stretchesFrom_inside hq, hnone]
  rfl

/-! ### Every text is laid out, or leaves a literal open -/

namespace Quotation

/-- The empty literal is proper. -/
theorem isProper_nil (h : IsQuote quote) : (Quotation.mk quote []).IsProper :=
  ⟨h, List.forall_mem_nil _⟩

/-- A proper literal may have another character in front that fits between its quotes. -/
theorem IsProper.cons {mark : Mark} (h : (Quotation.mk quote marks).IsProper)
    (hmark : mark.Fits quote) : (Quotation.mk quote (mark :: marks)).IsProper :=
  ⟨h.quote, List.forall_mem_cons.mpr ⟨hmark, h.marks⟩⟩

/-- Behind a quote a literal goes on to the next one, or to the end of the text. -/
theorem exists_inside (hquote : IsQuote quote) (cs : List Char) :
    ∃ marks rest, (Quotation.mk quote marks).IsProper
      ∧ cs = (Quotation.mk quote marks).inside ++ rest
      ∧ ((rest = [] ∨ rest = ['\\']) ∨ ∃ more, rest = quote :: more) := by
  match cs with
  | [] => exact ⟨[], [], isProper_nil hquote, rfl, .inl (.inl rfl)⟩
  | c :: cs =>
    by_cases hc : c = quote
    · exact ⟨[], c :: cs, isProper_nil hquote, rfl, .inr ⟨cs, by rw [hc]⟩⟩
    by_cases hbackslash : c = '\\'
    · subst hbackslash
      match cs with
      | [] => exact ⟨[], ['\\'], isProper_nil hquote, rfl, .inl (.inr rfl)⟩
      | d :: cs =>
        obtain ⟨marks, rest, h, rfl, hrest⟩ := exists_inside hquote cs
        exact ⟨.escaped d :: marks, rest, h.cons trivial, rfl, hrest⟩
    · obtain ⟨marks, rest, h, rfl, hrest⟩ := exists_inside hquote cs
      exact ⟨.plain c :: marks, rest, h.cons ⟨hc, hbackslash⟩, rfl, hrest⟩

end Quotation

namespace Layout

/-- A layout with code and a literal in front. -/
def cons (code : List Char) (q : Quotation) (l : Layout) : Layout := ⟨(code, q) :: l.front, l.last⟩

/-- Code and a literal in front come first in the text. -/
theorem text_cons (code : List Char) (q : Quotation) (l : Layout) :
    (l.cons code q).text = code ++ (q.text ++ l.text) := by
  simp [cons, text]

/-- A proper layout may have other code and another literal in front. -/
theorem IsProper.cons {code : List Char} (h : l.IsProper) (hcode : IsBare code) (hq : q.IsProper) :
    (l.cons code q).IsProper :=
  ⟨List.forall_mem_cons.mpr ⟨⟨hcode, hq⟩, h.front⟩, h.last⟩

end Layout

/-- A text that leaves a literal open does so behind other code and another literal as well. -/
theorem LeavesOpen.cons {code : List Char} (h : LeavesOpen cs) (hcode : IsBare code)
    (hq : q.IsProper) : LeavesOpen (code ++ (q.text ++ cs)) := by
  obtain ⟨l, q', rest, hl, hq', hrest, rfl⟩ := h
  exact ⟨l.cons code q, q', rest, hl.cons hcode hq, hq', hrest, by simp [Layout.text_cons]⟩

/-- Code goes on to the first quote. -/
theorem exists_bare (cs : List Char) : ∃ code rest, cs = code ++ rest ∧ IsBare code
    ∧ ∀ c, rest.head? = some c → IsQuote c := by
  refine ⟨cs.takeWhile fun c => !decide (IsQuote c), cs.dropWhile fun c => !decide (IsQuote c),
    List.takeWhile_append_dropWhile.symm, fun c hc => by simpa using List.mem_takeWhile_imp hc,
    fun c hc => ?_⟩
  have hfirst := List.head?_dropWhile_not (fun c => !decide (IsQuote c)) cs
  rw [hc] at hfirst
  simpa using hfirst

/-- A text is laid out, or leaves a literal open. -/
theorem exists_layout (cs : List Char) : (∃ l : Layout, l.IsOf cs) ∨ LeavesOpen cs := by
  -- What is left of the text gets shorter with the code and the literal in front of it.
  induction hlength : cs.length using Nat.strong_induction_on generalizing cs with
  | h n ih =>
    obtain ⟨code, rest, rfl, hcode, hrest⟩ := exists_bare cs
    have hlast : (Layout.mk [] code).IsProper := ⟨List.forall_mem_nil _, hcode⟩
    cases rest with
    | nil => exact .inl ⟨⟨[], code⟩, hlast, by simp [Layout.text]⟩
    | cons quote rest =>
      obtain ⟨marks, rest, hq, rfl, hopen | ⟨more, rfl⟩⟩ :=
        Quotation.exists_inside (hrest quote rfl) rest
      · exact .inr ⟨⟨[], code⟩, ⟨quote, marks⟩, rest, hlast, hq, hopen, by simp [Layout.text]⟩
      · have hshorter : more.length < n := by
          rw [← hlength]
          simp only [List.length_append, List.length_cons]
          omega
        have htext : code ++ quote :: ((Quotation.mk quote marks).inside ++ quote :: more)
            = code ++ ((Quotation.mk quote marks).text ++ more) := by
          simp [Quotation.text]
        rw [htext]
        rcases ih more.length hshorter more rfl with ⟨l, hl, rfl⟩ | hmore
        · exact .inl ⟨l.cons code ⟨quote, marks⟩, hl.cons hcode hq, Layout.text_cons _ _ _⟩
        · exact .inr (hmore.cons hcode hq)

/-! ### There is one layout -/

/-- A character in a literal is known by the text that begins with it. -/
theorem Mark.Fits.text_unique {mark mark' : Mark} {rest rest' : List Char} (h : mark.Fits quote)
    (h' : mark'.Fits quote) (heq : mark.text ++ rest = mark'.text ++ rest') :
    mark = mark' ∧ rest = rest' := by
  cases mark <;> cases mark' <;> simp_all [Mark.text, Mark.Fits, eq_comm]

/-- No character in a literal is taken for the quote behind it. -/
theorem Mark.Fits.text_ne {mark : Mark} {rest rest' : List Char} (h : mark.Fits quote)
    (hquote : IsQuote quote) : mark.text ++ rest ≠ quote :: rest' := by
  have hbackslash := hquote.ne_backslash
  cases mark <;> simp_all [Mark.text, Mark.Fits, eq_comm]

/-- The characters between quotes end at the first quote of their kind, so there is only one way to
    read them. -/
theorem inside_unique (hquote : IsQuote quote) {marks marks' : List Mark} {rest rest' : List Char}
    (h : ∀ mark ∈ marks, mark.Fits quote) (h' : ∀ mark ∈ marks', mark.Fits quote)
    (heq : marks.flatMap Mark.text ++ quote :: rest = marks'.flatMap Mark.text ++ quote :: rest') :
    marks = marks' ∧ rest = rest' := by
  -- Induction on the marks of one literal, with those of the other one alongside.
  induction marks generalizing marks' with
  | nil =>
    cases marks' with
    | nil => exact ⟨rfl, (List.cons.inj heq).2⟩
    | cons mark' marks' =>
      rw [List.flatMap_cons, List.append_assoc] at heq
      -- Where one literal ends, the other one has to end too: no mark begins with the quote.
      exact absurd heq.symm ((List.forall_mem_cons.mp h').1.text_ne hquote)
  | cons mark marks ih =>
    rw [List.flatMap_cons, List.append_assoc] at heq
    cases marks' with
    | nil => exact absurd heq ((List.forall_mem_cons.mp h).1.text_ne hquote)
    | cons mark' marks' =>
      rw [List.flatMap_cons, List.append_assoc] at heq
      obtain ⟨hmark, hmarks⟩ := List.forall_mem_cons.mp h
      obtain ⟨hmark', hmarks'⟩ := List.forall_mem_cons.mp h'
      -- The first marks are the same, and so are the texts behind them.
      obtain ⟨rfl, hrest⟩ := hmark.text_unique hmark' heq
      obtain ⟨rfl, rfl⟩ := ih hmarks hmarks' hrest
      exact ⟨rfl, rfl⟩

/-- A literal is known by the text that begins with it. -/
theorem Quotation.IsProper.text_unique {q' : Quotation} {rest rest' : List Char} (h : q.IsProper)
    (h' : q'.IsProper) (heq : q.text ++ rest = q'.text ++ rest') : q = q' ∧ rest = rest' := by
  obtain ⟨quote, marks⟩ := q
  obtain ⟨quote', marks'⟩ := q'
  simp only [Quotation.text, List.cons_append, List.append_assoc, List.cons.injEq] at heq
  obtain ⟨rfl, hinside⟩ := heq
  obtain ⟨rfl, rfl⟩ := inside_unique h.quote h.marks h'.marks hinside
  exact ⟨rfl, rfl⟩

/-- Code is known by the text that begins with it. -/
theorem IsBare.unique {code code' rest rest' : List Char} (h : IsBare code) (h' : IsBare code')
    (hrest : ∀ c, rest.head? = some c → IsQuote c) (hrest' : ∀ c, rest'.head? = some c → IsQuote c)
    (heq : code ++ rest = code' ++ rest') : code = code' ∧ rest = rest' := by
  refine front_unique (p := fun c => !decide (IsQuote c)) ?_ ?_ ?_ ?_ heq
  · simpa using show ∀ c ∈ code, ¬ IsQuote c from h
  · simpa using show ∀ c ∈ code', ¬ IsQuote c from h'
  · simpa using hrest
  · simpa using hrest'

/-- A literal begins with a quote, so code in front of it ends there. -/
theorem Quotation.IsProper.head_text (h : q.IsProper) (rest : List Char) :
    ∀ c, (q.text ++ rest).head? = some c → IsQuote c := by
  rintro c ⟨⟩
  exact h.quote

/-- Where one layout ends, the other one has no literal to go on with. -/
theorem Layout.IsProper.text_unique {front front' : List (List Char × Quotation)}
    {last last' : List Char} (h : (Layout.mk front last).IsProper)
    (h' : (Layout.mk front' last').IsProper)
    (heq : (Layout.mk front last).text = (Layout.mk front' last').text) :
    front = front' ∧ last = last' := by
  -- The code at the very end has nothing behind it, so nothing that is no quote follows it.
  have hnil : ∀ c, ([] : List Char).head? = some c → IsQuote c := by simp
  obtain ⟨hfront, hlast⟩ := h
  obtain ⟨hfront', hlast'⟩ := h'
  dsimp only [Layout.text] at heq hfront hfront'
  induction front generalizing front' with
  | nil =>
    cases front' with
    | nil => exact ⟨rfl, heq⟩
    | cons pair' front' =>
      obtain ⟨⟨hcode', hq'⟩, -⟩ := List.forall_mem_cons.mp hfront'
      rw [List.flatMap_nil, List.nil_append, ← List.append_nil last, List.flatMap_cons,
        List.append_assoc, List.append_assoc] at heq
      -- Here one text has a literal where the other one is at its end.
      cases (hlast.unique hcode' hnil (hq'.head_text _) heq).2
  | cons pair front ih =>
    obtain ⟨⟨hcode, hq⟩, hmore⟩ := List.forall_mem_cons.mp hfront
    rw [List.flatMap_cons, List.append_assoc, List.append_assoc] at heq
    cases front' with
    | nil =>
      rw [List.flatMap_nil, List.nil_append, ← List.append_nil last'] at heq
      cases (hcode.unique hlast' (hq.head_text _) hnil heq).2
    | cons pair' front' =>
      obtain ⟨⟨hcode', hq'⟩, hmore'⟩ := List.forall_mem_cons.mp hfront'
      rw [List.flatMap_cons, List.append_assoc, List.append_assoc] at heq
      -- Code ends at the first quote, so the two pieces of code in front are the same.
      obtain ⟨hcodes, htexts⟩ := hcode.unique hcode' (hq.head_text _) (hq'.head_text _) heq
      obtain ⟨hquotations, hrest⟩ := hq.text_unique hq' htexts
      obtain ⟨rfl, rfl⟩ := ih hrest hmore hlast hmore' hlast'
      exact ⟨by rw [Prod.ext hcodes hquotations], rfl⟩

/-- A text is laid out in one way. -/
theorem Layout.IsOf.unique {l' : Layout} (h : l.IsOf cs) (h' : l'.IsOf cs) : l' = l := by
  obtain ⟨front, last⟩ := l
  obtain ⟨front', last'⟩ := l'
  obtain ⟨rfl, rfl⟩ := h'.1.text_unique h.1 (h'.2.trans h.2.symm)
  rfl

/-- A text that is laid out in one way is laid out in no other. -/
theorem Layout.IsOf.eq_iff {l' : Layout} (h : l.IsOf cs) : l'.IsOf cs ↔ l' = l := by
  refine ⟨h.unique, ?_⟩
  rintro rfl
  exact h

/-! ### What becomes of a layout -/

/-- Adapted for double quotes, a character fits between them. -/
theorem Mark.Fits.adapted {mark : Mark} (h : mark.Fits quote) : mark.adapted.Fits '"' := by
  cases mark with
  | plain c =>
    rw [Mark.adapted]
    split
    · trivial
    · exact ⟨by assumption, h.2⟩
  | escaped c =>
    rw [Mark.adapted]
    split
    · subst c
      exact ⟨by decide, by decide⟩
    · trivial

/-- An adapted literal is proper. -/
theorem Quotation.IsProper.adapted (h : q.IsProper) : q.adapted.IsProper :=
  ⟨.inl rfl, List.forall_mem_map.mpr fun mark hmark => (h.marks mark hmark).adapted⟩

/-- Code without quotes is put together of pieces without quotes. -/
theorem isBare_append {code more : List Char} :
    IsBare (code ++ more) ↔ IsBare code ∧ IsBare more := List.forall_mem_append

/-- Replacing brackets brings in no quotes. -/
theorem isBare_replaceBrackets {code : List Char} (h : IsBare code) (followed opened : Bool) :
    IsBare (replaceBrackets followed opened code) := by
  have hlead (flag : Bool) : IsBare (leadText flag) := by cases flag <;> decide
  induction code generalizing opened with
  | nil =>
    rw [replaceBrackets]
    exact hlead _
  | cons c code ih =>
    obtain ⟨hc, hcode⟩ := List.forall_mem_cons.mp h
    rw [replaceBrackets_cons, isBare_append, isBare_append]
    refine ⟨⟨hlead _, ?_⟩, ih hcode _⟩
    split
    · decide
    · split
      · decide
      · exact List.forall_mem_singleton.mpr hc

/-- Replacing words does not either. -/
theorem isBare_reworded {code : List Char} (h : IsBare code) : IsBare (reworded code) := by
  intro c hc
  obtain ⟨run, hrun, hc⟩ := List.mem_flatMap.mp hc
  rw [rewordedRun] at hc
  cases hlookup : keywords.lookup run with
  | none =>
    rw [hlookup] at hc
    have hmem := List.mem_flatten_of_mem hrun hc
    rw [runs, List.flatten_splitBy] at hmem
    exact h c hmem
  | some constant =>
    rw [hlookup] at hc
    have hconstant : ∀ pair ∈ keywords, IsBare pair.2 := by decide
    exact hconstant _ (lookup_keywords.mp hlookup) c hc

/-- Adapted code has no quotes. -/
theorem isBare_adapted {code : List Char} (h : IsBare code) (followed : Bool) :
    IsBare (reworded (listed followed code)) := by
  rw [← replaceBrackets_eq]
  exact isBare_reworded (isBare_replaceBrackets h followed false)

/-- An adapted layout is proper, piece by piece. -/
theorem Layout.IsProper.adapted (h : l.IsProper) : l.adapted.IsProper := by
  refine ⟨fun pair hpair => ?_, isBare_adapted h.last false⟩
  obtain ⟨before, hbefore, rfl⟩ := List.mem_map.mp hpair
  obtain ⟨hcode, hq⟩ := h.front before hbefore
  exact ⟨isBare_adapted hcode true, hq.adapted⟩

/-- A character in a simple literal stands between double quotes as it is written there. -/
theorem Mark.IsSimple.escape_cons {mark : Mark} (h : mark.IsSimple) (hfits : mark.Fits quote)
    (cs : List Char) :
    Value.escape (mark.char :: cs) = mark.adapted.text ++ Value.escape cs := by
  cases mark with
  | plain c =>
    have hc := hfits.2
    by_cases hdouble : c = '"' <;>
      simp [Mark.char, Mark.adapted, Mark.text, Value.escape, hc, hdouble]
  | escaped c =>
    rcases h with rfl | rfl | rfl <;> simp [Mark.char, Mark.adapted, Mark.text, Value.escape]

/-- Between its quotes, a simple literal is adapted to the escaped form of what it says. -/
theorem Quotation.IsSimple.inside_adapted (hq : q.IsSimple) (h : q.IsProper) :
    q.adapted.inside = Value.escape q.chars := by
  obtain ⟨quote, marks⟩ := q
  replace h := h.marks
  dsimp only [Quotation.inside, Quotation.adapted, Quotation.chars, Quotation.IsSimple] at hq h ⊢
  induction marks with
  | nil => rfl
  | cons mark marks ih =>
    obtain ⟨hmark, hmarks⟩ := List.forall_mem_cons.mp h
    obtain ⟨hsimple, hrest⟩ := List.forall_mem_cons.mp hq
    rw [List.map_cons, List.flatMap_cons, List.map_cons, hsimple.escape_cons hmark, ih hrest hmarks]

/-- A simple literal says the same between double quotes. -/
theorem Quotation.IsSimple.denotes (hq : q.IsSimple) (h : q.IsProper) :
    Denotes q.adapted.text (String.ofList q.chars) := by
  intro word rest
  have hread := Expression.lexemesFrom_escape q.chars [] rest
  change lexemesFrom .code word ('"' :: (q.adapted.inside ++ ['"'] ++ rest)) = _
  rw [hq.inside_adapted h, List.append_assoc, List.singleton_append,
    Expression.lexemesFrom_code (by decide), if_pos (by rfl), hread]
  simp

/-! ### Results -/

/-- An answer has no expression exactly if it leaves a literal open. -/
theorem expression_eq_none_iff : expression? cs = none ↔ LeavesOpen cs := by
  refine ⟨fun hnone => ?_, expression_of_leavesOpen⟩
  rcases exists_layout cs with ⟨l, hl⟩ | hopen
  · rw [expression_of_layout hl] at hnone
    cases hnone
  · exact hopen

/-- The expression of an answer is laid out in the same way, with every part adapted. -/
theorem expression_eq_some_iff {out : List Char} :
    expression? cs = some out ↔ ∃ l : Layout, l.IsOf cs ∧ l.adapted.IsOf out := by
  constructor
  · intro hout
    rcases exists_layout cs with ⟨l, hl⟩ | hopen
    · rw [expression_of_layout hl, Option.some.injEq] at hout
      exact ⟨l, hl, hl.1.adapted, hout⟩
    · rw [expression_of_leavesOpen hopen] at hout
      cases hout
  · rintro ⟨l, hl, -, rfl⟩
    exact expression_of_layout hl

/-- **Literals.** An answer has no expression exactly if it leaves a literal open.  Otherwise it is
    laid out in one way, and the only layout of its expression is the adapted one; literals with
    no more backslashes than they need denote what they say. -/
theorem expression_layout (cs : List Char) :
    (expression? cs = none ↔ LeavesOpen cs)
    ∧ ∀ out, expression? cs = some out ↔ ∃ l : Layout,
      (∀ l' : Layout, l'.IsOf cs ↔ l' = l) ∧ (∀ l' : Layout, l'.IsOf out ↔ l' = l.adapted)
      ∧ ∀ q ∈ l.quotations, q.IsSimple → Denotes q.adapted.text (String.ofList q.chars) := by
  refine ⟨expression_eq_none_iff, fun out => ?_⟩
  rw [expression_eq_some_iff]
  constructor
  · rintro ⟨l, hl, hadapted⟩
    refine ⟨l, fun _ => hl.eq_iff, fun _ => hadapted.eq_iff, fun q hq hsimple => ?_⟩
    obtain ⟨pair, hpair, rfl⟩ := List.mem_map.mp hq
    exact hsimple.denotes (hl.1.front pair hpair).2
  · rintro ⟨l, hl, hadapted, -⟩
    exact ⟨l, (hl l).mpr rfl, (hadapted l.adapted).mpr rfl⟩

/-- A list right before a literal gets its comma, and no constant is replaced in a literal. -/
example : expression? "[\x27True \"a\"\x27, True]".toList
    = some "seq((), \"True \\\"a\\\"\", true)".toList := by
  decide

end Questionnaire.Answer
