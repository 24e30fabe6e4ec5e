import Questionnaire.Proofs.Text

namespace Questionnaire.Text

/-!
# Words joined by single spaces

A text that is taken apart into words, which are then joined by single spaces, loses the blanks at
its ends and has one space in the place of every other row of blanks.

* `collapseGaps` — one space in the place of every row of blanks.
* `words_eq_nil_iff` — only blanks hold no words.
* `intercalate_words` — joining the words trims a text and collapses its gaps.
-/

/-- Puts one space in the place of every row of blanks. -/
def collapseGaps : List Char → List Char
  | [] => []
  | c :: rest =>
    if isBlank c then
      if rest.head?.any isBlank then collapseGaps rest else ' ' :: collapseGaps rest
    else c :: collapseGaps rest

/-! ### Blanks around words -/

/-- The empty text has no words. -/
theorem words_nil : words [] = [] := rfl

/-- A blank in front is in no word. -/
theorem words_cons_of_isBlank {c : Char} (h : isBlank c = true) (cs : List Char) :
    words (c :: cs) = words cs := if_pos h

/-- A character that is no blank is a word if a blank or nothing follows, and the beginning of the
    next word otherwise. -/
theorem words_cons_of_full {c : Char} (h : isBlank c = false) (cs : List Char) :
    words (c :: cs) = match cs, words cs with
      | d :: _, w :: ws => if isBlank d then [c] :: w :: ws else (c :: w) :: ws
      | _, ws => [c] :: ws := if_neg (by simp [h])

/-- Only blanks hold no words. -/
theorem words_eq_nil_iff {cs : List Char} : words cs = [] ↔ IsGap cs := by
  induction cs with
  | nil => exact iff_of_true words_nil (by simp [IsGap])
  | cons c cs ih =>
    cases hc : isBlank c with
    | true =>
      rw [words_cons_of_isBlank hc, ih, IsGap, IsGap, List.forall_mem_cons, and_iff_right hc]
    | false =>
      have hgap : ¬ IsGap (c :: cs) := fun h => by simp [h c] at hc
      rw [words_cons_of_full hc, iff_false_right hgap]
      cases cs <;> cases words _ <;> simp
      split <;> simp

/-- Blanks in front are in no word. -/
theorem words_gap_append {gap : List Char} (h : IsGap gap) (cs : List Char) :
    words (gap ++ cs) = words cs := by
  induction gap with
  | nil => rfl
  | cons c gap ih =>
    rw [List.cons_append, words_cons_of_isBlank (h c (by simp)),
      ih fun d hd => h d (List.mem_cons_of_mem c hd)]

/-- Blanks behind are in no word. -/
theorem words_append_gap {gap : List Char} (h : IsGap gap) (cs : List Char) :
    words (cs ++ gap) = words cs := by
  induction cs with
  | nil => exact words_eq_nil_iff.mpr h
  | cons c cs ih =>
    cases hc : isBlank c with
    | true => rw [List.cons_append, words_cons_of_isBlank hc, words_cons_of_isBlank hc, ih]
    | false =>
      rw [List.cons_append, words_cons_of_full hc, words_cons_of_full hc, ih]
      cases cs with
      | nil => cases gap <;> rfl
      | cons d cs => cases words (d :: cs) <;> rfl

/-- Trimming leaves the words. -/
theorem words_trim (cs : List Char) : words (trim cs) = words cs := by
  obtain ⟨before, after, hbefore, hafter, hcs⟩ := exists_gaps cs
  conv_rhs => rw [hcs, words_append_gap hafter, words_gap_append hbefore]

/-! ### Joining -/

/-- What ends full does so without its first character, too. -/
theorem startsFull_reverse_of_cons {c : Char} {cs : List Char} (h : StartsFull (c :: cs).reverse) :
    StartsFull cs.reverse := by
  rcases cs.eq_nil_or_concat with rfl | ⟨front, last, rfl⟩
  · rintro d ⟨⟩
  · simpa [StartsFull] using h

/-- A text whose last character is no blank holds a word. -/
theorem exists_words_of_endsFull {c : Char} {cs : List Char} (h : StartsFull (c :: cs).reverse) :
    ∃ w ws, words (c :: cs) = w :: ws := by
  apply List.exists_cons_of_ne_nil
  intro hnone
  obtain ⟨last, hlast⟩ : ∃ last, (c :: cs).reverse.head? = some last :=
    Option.isSome_iff_exists.mp (by simp)
  have hmem : last ∈ c :: cs := List.mem_reverse.mp (List.mem_of_mem_head? hlast)
  exact absurd (words_eq_nil_iff.mp hnone last hmem) (by simp [h last hlast])

/-- The words of a text that ends with no blank, with a space in front if the text begins with a
    blank. -/
theorem collapseGaps_of_endsFull {cs : List Char} (h : StartsFull cs.reverse) :
    collapseGaps cs =
      (if cs.head?.any isBlank then [' '] else []) ++ List.intercalate [' '] (words cs) := by
  -- The induction is on the characters; two of them are looked at, as a gap may go on or end.
  induction cs with
  | nil => rfl
  | cons c cs ih =>
    have hrest := ih (startsFull_reverse_of_cons h)
    cases cs with
    | nil =>
      have hc : isBlank c = false := h c rfl
      rw [words_cons_of_full hc]
      simp [collapseGaps, hc, words_nil]
    | cons d cs =>
      obtain ⟨w, ws, hwords⟩ := exists_words_of_endsFull (startsFull_reverse_of_cons h)
      rw [collapseGaps, hrest]
      cases hc : isBlank c with
      | true =>
        rw [words_cons_of_isBlank hc]
        cases hd : isBlank d <;> simp [hc, hd]
      | false =>
        rw [words_cons_of_full hc, hwords]
        cases hd : isBlank d <;> cases ws <;> simp [hc, hd, List.intercalate]

/-- **Words.** Joining the words of a text by single spaces trims it and collapses its gaps. -/
theorem intercalate_words (cs : List Char) :
    List.intercalate [' '] (words cs) = collapseGaps (trim cs) := by
  have hfull : (trim cs).head?.any isBlank = false := by
    cases hhead : (trim cs).head? with
    | none => rfl
    | some c => exact startsFull_trim cs c hhead
  rw [collapseGaps_of_endsFull (endsFull_trim cs), hfull, words_trim]
  rfl

end Questionnaire.Text
