import Mathlib.Data.List.Infix
import Mathlib.Data.List.SplitBy
import Mathlib.Data.List.TakeWhile
import Questionnaire.Proofs.Answer.Stretch
import Questionnaire.Proofs.Keyed

namespace Questionnaire.Answer

open Questionnaire.Text (isBlank isWordChar)

/-!
# Code and what becomes of it

The code of an answer is adapted in two steps, neither of which looks at more than its surroundings.
What becomes of a character depends on the character and on the code in front of it: a bracket is
replaced, and the first item of a list gets a comma.  After that, what becomes of a word depends on
nothing but the word.

* `opensList` — the last bracket of a text opens a list, and nothing but blanks stands behind it.
* `listed` — the code with its brackets replaced, character by character.
* `reworded` — the code with its keywords replaced, word by word.
* `codeExpression_eq` — adapted code is the result of both.
-/

/-! ### Specification -/

/-- A list has been opened at the end of a text, and its first item is still to come. -/
def opensList (cs : List Char) : Bool := (Text.trimEnd cs).getLast? == some '['

/-- What becomes of a character behind a text. -/
def listedBehind (front : List Char) (c : Char) : List Char :=
  leadText (opensList front && !isBlank c && c != ']') ++
    if c = '[' then listOpening else if c = ']' then [')'] else [c]

/-- What becomes of each character.  If a literal follows, it may be the first item of a list. -/
def listed (followed : Bool) (cs : List Char) : List Char :=
  (List.zipWith listedBehind cs.inits cs).flatten ++ leadText (opensList cs && followed)

/-- The words of a text and the stretches between them, in order. -/
def runs (cs : List Char) : List (List Char) := cs.splitBy fun c d => isWordChar c == isWordChar d

/-- What becomes of a word, or of a stretch between words. -/
def rewordedRun (run : List Char) : List Char := (keywords.lookup run).getD run

/-- What becomes of each word. -/
def reworded (cs : List Char) : List Char := (runs cs).flatMap rewordedRun

/-! ### Brackets -/

/-- Behind one more character, a list is open if the character opens it, or is blank and it was
    open. -/
theorem opensList_concat (front : List Char) (c : Char) :
    opensList (front ++ [c]) = (c == '[' || (opensList front && isBlank c)) := by
  have hbracket : isBlank '[' = false := by decide
  simp only [opensList, Text.trimEnd, List.reverse_append, List.reverse_singleton,
    List.singleton_append, List.dropWhile_cons]
  split
  · rename_i hblank
    have hc : c ≠ '[' := by
      rintro rfl
      rw [hbracket] at hblank
      cases hblank
    simp [hc, hblank]
  · rename_i hfull
    simp [hfull]

/-- One step from left to right, with a flag that tells whether a list has been opened. -/
theorem replaceBrackets_cons (followed opened : Bool) (c : Char) (cs : List Char) :
    replaceBrackets followed opened (c :: cs)
      = leadText (opened && !isBlank c && c != ']')
        ++ (if c = '[' then listOpening else if c = ']' then [')'] else [c])
        ++ replaceBrackets followed (c == '[' || (opened && isBlank c)) cs := by
  have hclosing : isBlank ']' = false := by decide
  rw [replaceBrackets]
  by_cases hopen : c = '['
  · simp [hopen, leadText]
  · by_cases hclose : c = ']'
    · simp [hclose, hclosing, leadText]
    · simp [beq_eq_false_iff_ne.mpr hopen, hopen, hclose, leadText]

/-- The flag tells what the code in front ends with. -/
theorem replaceBrackets_behind (followed : Bool) (front cs : List Char) :
    replaceBrackets followed (opensList front) cs
      = (List.zipWith listedBehind (cs.inits.map (front ++ ·)) cs).flatten
        ++ leadText (opensList (front ++ cs) && followed) := by
  induction cs generalizing front with
  | nil => simp [replaceBrackets, leadText]
  | cons c cs ih =>
    have hrest := ih (front ++ [c])
    rw [opensList_concat, List.append_assoc, List.singleton_append] at hrest
    have hinits : (c :: cs).inits.map (front ++ ·) = front :: cs.inits.map (front ++ [c] ++ ·) := by
      simp
    rw [replaceBrackets_cons, hrest, hinits, List.zipWith_cons_cons, List.flatten_cons,
      List.append_assoc _ _ (leadText _)]
    rfl

/-- Brackets are replaced one by one as they are in one pass. -/
theorem replaceBrackets_eq (followed : Bool) (cs : List Char) :
    replaceBrackets followed false cs = listed followed cs := by
  have hbehind := replaceBrackets_behind followed [] cs
  simp only [List.nil_append, List.map_id'] at hbehind
  exact hbehind

/-! ### Keywords -/

/-- No keyword begins with a character that belongs to no word. -/
theorem replaceWords_outside {c : Char} (hc : isWordChar c = false) (inWord : Bool)
    (cs : List Char) : replaceWords inWord (c :: cs) = c :: replaceWords false cs := by
  have hletter : ∀ d ∈ ['T', 'F', 'N'], isWordChar d = true :=
    List.all_iff_forall_prop.mp (by decide)
  have hne (d : Char) (hd : d ∈ ['T', 'F', 'N']) : c ≠ d := by
    rintro rfl
    rw [hletter c hd] at hc
    cases hc
  rw [replaceWords_cons ⟨hne 'T' (by simp), hne 'F' (by simp), hne 'N' (by simp)⟩, hc]

/-- Where a word ends, it no longer matters that there was a word. -/
theorem replaceWords_of_wordEnds {cs : List Char} (h : wordEnds cs = true) :
    replaceWords true cs = replaceWords false cs := by
  cases cs with
  | nil => rfl
  | cons c cs =>
    have hc : isWordChar c = false := by simpa [wordEnds] using h
    rw [replaceWords_outside hc, replaceWords_outside hc]

/-- The rest of a word stays. -/
theorem replaceWords_rest {word : List Char} (hword : ∀ c ∈ word, isWordChar c = true)
    {cs : List Char} (hcs : wordEnds cs = true) :
    replaceWords true (word ++ cs) = word ++ replaceWords false cs := by
  induction word with
  | nil => exact replaceWords_of_wordEnds hcs
  | cons c word ih =>
    obtain ⟨hc, hrest⟩ := List.forall_mem_cons.mp hword
    rw [List.cons_append, replaceWords_inWord, hc, ih hrest, List.cons_append]

/-- A keyword is made of word characters. -/
theorem isWordChar_keyword {word constant : List Char} (h : (word, constant) ∈ keywords) :
    word ≠ [] ∧ ∀ c ∈ word, isWordChar c = true := by
  have hall : ∀ pair ∈ keywords, pair.1 ≠ [] ∧ pair.1.all isWordChar = true := by decide
  exact (hall _ h).imp_right List.all_eq_true.mp

/-- What stands in front of the first character of a kind is known by the whole text. -/
theorem front_unique {p : Char → Bool} {front front' back back' : List Char}
    (hfront : ∀ c ∈ front, p c = true) (hfront' : ∀ c ∈ front', p c = true)
    (hback : ∀ c, back.head? = some c → p c = false)
    (hback' : ∀ c, back'.head? = some c → p c = false)
    (h : front ++ back = front' ++ back') : front = front' ∧ back = back' := by
  have htake {front back : List Char} (hfront : ∀ c ∈ front, p c = true)
      (hback : ∀ c, back.head? = some c → p c = false) : (front ++ back).takeWhile p = front := by
    rw [List.takeWhile_append_of_pos hfront]
    cases back with
    | nil => simp
    | cons c back => simp [hback c rfl]
  have hequal : front = front' := by rw [← htake hfront hback, h, htake hfront' hback']
  exact ⟨hequal, List.append_cancel_left (hequal ▸ h)⟩

/-- A word ends where no word character follows. -/
theorem wordEnds_iff {cs : List Char} :
    wordEnds cs = true ↔ ∀ c, cs.head? = some c → isWordChar c = false := by
  cases cs <;> simp [wordEnds]

/-- Keywords are distinct, so each is found in the table. -/
theorem lookup_keywords {word constant : List Char} :
    keywords.lookup word = some constant ↔ (word, constant) ∈ keywords :=
  Keyed.lookup_eq_some_iff_mem (by decide)

/-- A word that is no keyword stays. -/
theorem replaceWords_other {word : List Char} (hword : ∀ c ∈ word, isWordChar c = true)
    {cs : List Char} (hcs : wordEnds cs = true) (hother : keywords.lookup word = none) :
    replaceWords false (word ++ cs) = word ++ replaceWords false cs := by
  cases word with
  | nil => rfl
  | cons c word =>
    obtain ⟨hc, hmore⟩ := List.forall_mem_cons.mp hword
    rw [List.cons_append, replaceWords_stays, hc, replaceWords_rest hmore hcs, List.cons_append]
    -- A keyword here would end where the word ends, and be the word.
    intro pair hpair rest hsplit
    rw [Bool.not_false, Bool.true_and, ← Bool.not_eq_true]
    intro hends
    obtain ⟨hequal, -⟩ := front_unique hword (isWordChar_keyword hpair).2 (wordEnds_iff.mp hcs)
      (wordEnds_iff.mp hends) hsplit
    rw [hequal, lookup_keywords.mpr hpair] at hother
    cases hother

/-- A whole word is reworded by itself. -/
theorem replaceWords_word {word : List Char} (hword : ∀ c ∈ word, isWordChar c = true)
    {cs : List Char} (hcs : wordEnds cs = true) :
    replaceWords false (word ++ cs) = rewordedRun word ++ replaceWords false cs := by
  rw [rewordedRun]
  cases hlookup : keywords.lookup word with
  | none => exact replaceWords_other hword hcs hlookup
  | some constant =>
    rw [replaceWords_keyword (lookup_keywords.mp hlookup) hcs, replaceWords_of_wordEnds hcs]
    rfl

/-- What stands between words stays. -/
theorem replaceWords_between {run : List Char} (hrun : ∀ c ∈ run, isWordChar c = false)
    (cs : List Char) : replaceWords false (run ++ cs) = run ++ replaceWords false cs := by
  induction run with
  | nil => rfl
  | cons c run ih =>
    obtain ⟨hc, hrest⟩ := List.forall_mem_cons.mp hrun
    rw [List.cons_append, replaceWords_outside hc, ih hrest, List.cons_append]

/-- What stands between words stays as it is. -/
theorem rewordedRun_between {run : List Char} (hrun : ∀ c ∈ run, isWordChar c = false) :
    rewordedRun run = run := by
  rw [rewordedRun]
  cases hlookup : keywords.lookup run with
  | none => rfl
  | some constant =>
    obtain ⟨hne, hword⟩ := isWordChar_keyword (lookup_keywords.mp hlookup)
    obtain ⟨c, hc⟩ := List.exists_mem_of_ne_nil run hne
    exact absurd ((hword c hc).symm.trans (hrun c hc)) nofun

/-- A run ends where the kind of the characters changes. -/
theorem runs_append {run : List Char} (hne : run ≠ []) {word : Bool}
    (hrun : ∀ c ∈ run, isWordChar c = word) {cs : List Char}
    (hcs : ∀ c, cs.head? = some c → isWordChar c ≠ word) : runs (run ++ cs) = run :: runs cs := by
  have hchain : run.IsChain fun c d => (isWordChar c == isWordChar d) = true := by
    refine List.Pairwise.isChain (List.pairwise_of_forall_mem_list fun c hc d hd => ?_)
    rw [hrun c hc, hrun d hd, beq_self_eq_true]
  have hends : ∀ c ∈ run.getLast?, ∀ d ∈ cs.head?, (isWordChar c == isWordChar d) = false := by
    intro c hc d hd
    rw [hrun c (List.mem_of_mem_getLast? hc)]
    exact beq_eq_false_iff_ne.mpr (hcs d hd).symm
  rw [runs, List.splitBy_append hends, List.splitBy_of_isChain hne hchain]
  rfl

/-- The first run of a text goes on as long as the characters are of the kind of the first one. -/
theorem exists_run (c : Char) (cs : List Char) : ∃ run rest, c :: cs = run ++ rest ∧ run ≠ []
    ∧ (∀ d ∈ run, isWordChar d = isWordChar c)
    ∧ ∀ d, rest.head? = some d → isWordChar d ≠ isWordChar c := by
  refine ⟨(c :: cs).takeWhile (isWordChar · == isWordChar c),
    (c :: cs).dropWhile (isWordChar · == isWordChar c), List.takeWhile_append_dropWhile.symm,
    by simp, fun d hd => by simpa using List.mem_takeWhile_imp hd, fun d hd => ?_⟩
  have hfirst := List.head?_dropWhile_not (isWordChar · == isWordChar c) (c :: cs)
  rw [hd] at hfirst
  simpa using hfirst

/-- Keywords are replaced where they are words of their own. -/
theorem replaceWords_eq (cs : List Char) : replaceWords false cs = reworded cs := by
  -- Induction on the length, since a step takes off a whole run of characters.
  induction hlength : cs.length using Nat.strong_induction_on generalizing cs with
  | h n ih =>
    cases cs with
    | nil => rfl
    | cons c cs =>
      obtain ⟨run, rest, hsplit, hne, hrun, hrest⟩ := exists_run c cs
      -- The run in front is not empty, so what is left is shorter.
      have hrec : replaceWords false rest = reworded rest := by
        refine ih rest.length ?_ rest rfl
        have hpos := List.length_pos_of_ne_nil hne
        rw [← hlength, hsplit, List.length_append]
        omega
      rw [hsplit, reworded, runs_append hne hrun hrest, List.flatMap_cons, ← reworded, ← hrec]
      cases hc : isWordChar c with
      | true =>
        rw [hc] at hrun hrest
        exact replaceWords_word hrun
          (wordEnds_iff.mpr fun d hd => Bool.not_eq_true _ ▸ hrest d hd)
      | false =>
        rw [hc] at hrun
        rw [replaceWords_between hrun, rewordedRun_between hrun]

/-- **Code.** Adapted code is the code with its brackets replaced, character by character, and then
    its keywords, word by word. -/
theorem codeExpression_eq (followed : Bool) (cs : List Char) :
    codeExpression followed cs = reworded (listed followed cs) := by
  rw [codeExpression, replaceBrackets_eq, replaceWords_eq]

end Questionnaire.Answer
