import Questionnaire.Proofs.Text
import Questionnaire.ValueType.Arguments
import Questionnaire.ValueType.Written

namespace Questionnaire.ValueType

open Questionnaire.Text (isBlank trim StartsFull IsGap)

/-!
# Splitting rows of arguments

Arguments are written in a row, with a comma and a space between them, and split again where they
have been joined.

* `Passes` — a text that is not split: whoever splits comes out of it as he went in.
* `IsArgument` — a text that can stand in a row.
* `split_row` — a row of arguments is split into these.
-/

/-! ### Texts that are not split -/

/-- Inside `least` brackets or more, splitting goes on behind a text as if it had no commas. -/
def Passes (least : Nat) (cs : List Char) : Prop :=
  ∀ depth, least ≤ depth → ∀ acc rest,
    piecesFrom depth none acc (cs ++ rest) = piecesFrom depth none (cs.reverse ++ acc) rest

/-- A character that neither opens nor closes nor splits anything. -/
def IsOrdinary (c : Char) : Prop := c ∉ ['"', '\x27', '[', ']', '(', ')', ',']

/-- Whether a character is ordinary can be decided. -/
instance (c : Char) : Decidable (IsOrdinary c) := inferInstanceAs (Decidable (c ∉ _))

variable {least : Nat} {cs ds : List Char}

/-- The empty text passes. -/
theorem Passes.nil : Passes least [] := fun _ _ _ _ => rfl

/-- Texts that pass do so one after the other. -/
theorem Passes.append (hcs : Passes least cs) (hds : Passes least ds) :
    Passes least (cs ++ ds) := by
  intro depth hdepth acc rest
  rw [List.append_assoc, hcs depth hdepth, hds depth hdepth, List.reverse_append,
    List.append_assoc]

/-- What passes outside of brackets passes inside of them. -/
theorem Passes.inside (h : Passes 0 cs) : Passes least cs := fun depth _ =>
  h depth (Nat.zero_le depth)

/-- An ordinary character passes. -/
theorem passes_char {c : Char} (h : IsOrdinary c) : Passes least [c] := by
  intro depth _ acc rest
  simp only [IsOrdinary, List.mem_cons, List.not_mem_nil, or_false, not_or] at h
  obtain ⟨hdouble, hsingle, hopen, hclose, hopen', hclose', hcomma⟩ := h
  simp [piecesFrom, hdouble, hsingle, hopen, hopen', hclose, hclose', hcomma]

/-- A text of ordinary characters passes. -/
theorem passes_of_ordinary (h : ∀ c ∈ cs, IsOrdinary c) : Passes least cs := by
  induction cs with
  | nil => exact .nil
  | cons c cs ih =>
    exact (passes_char (h c List.mem_cons_self)).append
      (ih fun d hd => h d (List.mem_cons_of_mem c hd))

/-- Inside a bracket a comma splits nothing. -/
theorem passes_comma : Passes 1 [','] := by
  intro depth hdepth acc rest
  obtain ⟨depth, rfl⟩ := Nat.exists_eq_add_of_le' hdepth
  simp [piecesFrom]

/-- Square brackets around a text that passes inside of brackets pass anywhere. -/
theorem Passes.brackets (h : Passes 1 cs) : Passes 0 ('[' :: cs ++ [']']) := by
  intro depth _ acc rest
  have hinside := h (depth + 1) (by omega) ('[' :: acc) (']' :: rest)
  simp [piecesFrom, hinside]

/-- Round brackets around a text that passes inside of brackets pass anywhere. -/
theorem Passes.parentheses (h : Passes 1 cs) : Passes 0 ('(' :: cs ++ [')']) := by
  intro depth _ acc rest
  have hinside := h (depth + 1) (by omega) ('(' :: acc) (')' :: rest)
  simp [piecesFrom, hinside]

/-- Between double quotes, only a double quote matters. -/
theorem passes_quoted (h : '"' ∉ cs) : Passes 0 ('"' :: cs ++ ['"']) := by
  have hcontent (depth : Nat) (acc rest : List Char) :
      piecesFrom depth (some '"') acc (cs ++ '"' :: rest)
        = piecesFrom depth none ('"' :: cs.reverse ++ acc) rest := by
    induction cs generalizing acc with
    | nil => simp [piecesFrom]
    | cons c cs ih =>
      obtain ⟨hc, hcs⟩ : '"' ≠ c ∧ '"' ∉ cs := by simpa using h
      rw [List.cons_append, piecesFrom, if_neg (by simpa using hc.symm), ih hcs]
      simp
  intro depth _ acc rest
  have hquoted := hcontent depth ('"' :: acc) rest
  simp [piecesFrom, hquoted]

/-! ### Rows -/

/-- A text that can stand in a row: it is not split, and neither empty nor blank at an end. -/
structure IsArgument (cs : List Char) : Prop where
  passes : Passes 0 cs
  nonempty : cs ≠ []
  starts : StartsFull cs
  ends : StartsFull cs.reverse

/-- A word without marks and blanks. -/
def IsWord (cs : List Char) : Prop := cs ≠ [] ∧ ∀ c ∈ cs, IsOrdinary c ∧ isBlank c = false

/-- Whether a text is a word can be decided. -/
instance (cs : List Char) : Decidable (IsWord cs) :=
  decidable_of_iff
    (cs.isEmpty = false ∧ (cs.all fun c => decide (IsOrdinary c ∧ isBlank c = false)) = true)
    (by simp [IsWord])

/-- A word may stand in a row. -/
theorem IsWord.argument (h : IsWord cs) : IsArgument cs where
  passes := passes_of_ordinary fun c hc => (h.2 c hc).1
  nonempty := h.1
  starts := Text.startsFull_of_mem fun c hc => (h.2 c hc).2
  ends := Text.startsFull_of_mem fun c hc => (h.2 c (List.mem_reverse.mp hc)).2

/-- A name with something enclosed behind it can stand in a row. -/
theorem IsArgument.append (h : IsArgument cs) {c d : Char} (hds : Passes 0 (c :: ds ++ [d]))
    (hd : isBlank d = false) : IsArgument (cs ++ (c :: ds ++ [d])) where
  passes := h.passes.append hds
  nonempty := by simp
  starts e he := h.starts e (by rwa [List.head?_append_of_ne_nil _ h.nonempty] at he)
  ends := by
    rw [← List.append_assoc]
    exact Text.endsFull_concat hd _

/-- An argument has no blanks to be trimmed. -/
theorem IsArgument.trim (h : IsArgument cs) : trim cs = cs := by
  have hpadded : Text.trim ([] ++ cs ++ []) = cs :=
    Text.trim_padded (by simp [IsGap]) (by simp [IsGap]) h.nonempty h.starts h.ends
  simpa using hpadded

/-- The space that a row puts in front of an argument is trimmed. -/
theorem IsArgument.trim_space (h : IsArgument cs) : Text.trim (' ' :: cs) = cs := by
  have hpadded : Text.trim ([' '] ++ cs ++ []) = cs :=
    Text.trim_padded (by simp [IsGap]; decide) (by simp [IsGap]) h.nonempty h.starts h.ends
  simpa using hpadded

/-- Texts with a comma and a space between them. -/
def row : List (List Char) → List Char
  | [] => []
  | [cs] => cs
  | cs :: rest => cs ++ ',' :: ' ' :: row rest

/-- A row begins with its first argument, a comma and a space. -/
theorem row_cons (cs : List Char) {rest : List (List Char)} (h : rest ≠ []) :
    row (cs :: rest) = cs ++ ',' :: ' ' :: row rest := by
  cases rest with
  | nil => exact absurd rfl h
  | cons ds rest => rfl

/-- An argument is no longer than a row in which it stands. -/
theorem length_le_row {texts : List (List Char)} (h : cs ∈ texts) :
    cs.length ≤ (row texts).length := by
  induction texts with
  | nil => cases h
  | cons ds rest ih =>
    by_cases hrest : rest = []
    · subst hrest
      rw [List.mem_singleton.mp h]
      exact (Nat.le_refl _)
    · rw [row_cons ds hrest]
      rcases List.mem_cons.mp h with rfl | h
      · simp
      · have := ih h
        simp only [List.length_append, List.length_cons]
        omega

/-- Inside brackets a row of arguments is not split. -/
theorem passes_row {texts : List (List Char)} (h : ∀ cs ∈ texts, IsArgument cs) :
    Passes 1 (row texts) := by
  induction texts with
  | nil => exact .nil
  | cons cs rest ih =>
    have hcs : Passes 1 cs := (h cs List.mem_cons_self).passes.inside
    by_cases hrest : rest = []
    · subst hrest
      exact hcs
    · rw [row_cons cs hrest]
      exact hcs.append (passes_comma.append ((passes_char (by decide)).append
        (ih fun ds hds => h ds (List.mem_cons_of_mem cs hds))))

/-- A last piece that is not empty stays. -/
theorem dropEmptyLast_of_nonempty {texts : List (List Char)} (h : ∀ cs ∈ texts, cs ≠ []) :
    dropEmptyLast texts = texts := by
  induction texts with
  | nil => rfl
  | cons cs rest ih =>
    cases rest with
    | nil => simp [dropEmptyLast, h cs]
    | cons ds rest =>
      rw [dropEmptyLast, ih fun es hes => h es (List.mem_cons_of_mem cs hes)]
      simp

/-- Outside of everything, a comma ends a piece. -/
theorem piecesFrom_comma (acc rest : List Char) :
    piecesFrom 0 none acc (',' :: rest) = (acc.reverse :: ·) <$> piecesFrom 0 none [] rest := rfl

/-- The pieces of a row are its texts, with the blanks in front of them. -/
theorem piecesFrom_row {texts : List (List Char)} (hne : texts ≠ [])
    (h : ∀ cs ∈ texts, IsArgument cs) {gap : List Char} (hgap : gap = [] ∨ gap = [' ']) :
    ∃ pieces, piecesFrom 0 none [] (gap ++ row texts) = .ok pieces
      ∧ pieces.map Text.trim = texts := by
  induction texts generalizing gap with
  | nil => exact absurd rfl hne
  | cons cs rest ih =>
    have hcs := h cs List.mem_cons_self
    obtain ⟨hpasses, htrim⟩ : Passes 0 (gap ++ cs) ∧ Text.trim (gap ++ cs) = cs := by
      rcases hgap with rfl | rfl
      · exact ⟨hcs.passes, hcs.trim⟩
      · exact ⟨(passes_char (by decide)).append hcs.passes, hcs.trim_space⟩
    by_cases hrest : rest = []
    · subst hrest
      refine ⟨[gap ++ cs], ?_, by simp [htrim]⟩
      have hall := hpasses 0 (Nat.le_refl _) [] []
      rw [List.append_nil, List.append_nil] at hall
      rw [show row [cs] = cs from rfl, hall]
      simp [piecesFrom]
    · obtain ⟨pieces, hpieces, htexts⟩ := ih hrest
        (fun ds hds => h ds (List.mem_cons_of_mem cs hds)) (.inr rfl)
      refine ⟨(gap ++ cs) :: pieces, ?_, by simp [htrim, htexts]⟩
      -- the comma ends the piece, and the blank behind it starts the next one
      rw [row_cons cs hrest, ← List.append_assoc, hpasses 0 (Nat.le_refl _), piecesFrom_comma]
      rw [List.cons_append, List.nil_append] at hpieces
      simp [hpieces]

/-- **Splitting.** A row of arguments is split into these. -/
theorem split_row {texts : List (List Char)} (h : ∀ cs ∈ texts, IsArgument cs) :
    split (row texts) = .ok texts := by
  by_cases hne : texts = []
  · rw [hne]
    rfl
  · obtain ⟨pieces, hpieces, htexts⟩ := piecesFrom_row hne h (.inl rfl)
    have hempty : texts.any List.isEmpty = false := by
      rw [List.any_eq_false]
      intro cs hcs
      simpa using (h cs hcs).nonempty
    rw [List.nil_append] at hpieces
    rw [split, hpieces]
    dsimp only
    rw [htexts, dropEmptyLast_of_nonempty fun cs hcs => (h cs hcs).nonempty, hempty]
    rfl

end Questionnaire.ValueType
