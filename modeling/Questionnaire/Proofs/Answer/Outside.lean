import Questionnaire.Proofs.Answer.Stretch
import Questionnaire.Proofs.Expression.Sign

namespace Questionnaire.Answer

open Questionnaire.Expression (IsCode IsContent Uncommented)

/-!
# Outside of literals

An answer alternates between code and string literals.  Its code is what stands outside of the
literals, and the content of each literal is a string of the expression, whatever quotes and
backslashes occur in it.

* `outside` — the characters of an answer that stand outside of string literals.
* `Cut` — code and literals in turn.
* `cut_of_stretches` — how an answer is cut.
* `isCode_codeExpression`, `uncommented_codeExpression` — adapted code holds neither brackets of
  lists nor comments.
-/

/-- The characters that stand outside of literals, from a place on that is in code, or in a literal
    that a given quote closes. -/
def outsideFrom : Option Char → List Char → List Char
  | _, [] => []
  | none, c :: rest =>
    if c == '"' || c == '\x27' then outsideFrom (some c) rest else c :: outsideFrom none rest
  | some q, '\\' :: _ :: rest => outsideFrom (some q) rest
  | some q, c :: rest => outsideFrom (if c == q then none else some q) rest

/-- The characters of an answer that stand outside of string literals. -/
def outside (cs : List Char) : List Char := outsideFrom none cs

/-! ### Cutting -/

/-- Pieces that are code and literals in turn, with the characters of all code. -/
inductive Cut : List Char → List Stretch → Prop where
  | last {code : List Char} : '"' ∉ code → Uncommented code → Cut code [.code code]
  | more {code content cs : List Char} {rest : List Stretch} :
    '"' ∉ code → Uncommented code → IsContent content → Cut cs rest →
    Cut (code ++ cs) (.code code :: .literal content :: rest)

/-- Two contents of strings in a row are one. -/
theorem isContent_append {front back : List Char} (hfront : IsContent front)
    (hback : IsContent back) : IsContent (front ++ back) := by
  induction hfront with
  | nil => exact hback
  | escaped c _ ih => exact .escaped c ih
  | plain hquote hbackslash _ ih => exact .plain hquote hbackslash ih

/-- A character that needs no backslash may follow a content. -/
theorem isContent_plain {acc : List Char} (h : IsContent acc.reverse) {c : Char} (hquote : c ≠ '"')
    (hbackslash : c ≠ '\\') : IsContent (c :: acc).reverse := by
  rw [List.reverse_cons]
  exact isContent_append h (.plain hquote hbackslash .nil)

/-- Any character may follow it behind a backslash. -/
theorem isContent_escaped {acc : List Char} (h : IsContent acc.reverse) (c : Char) :
    IsContent (c :: '\\' :: acc).reverse := by
  rw [List.reverse_cons, List.reverse_cons, List.append_assoc]
  exact isContent_append h (.escaped c .nil)

/-- How the text from a place on is cut, with the piece so far in reverse. -/
def IsCutFrom : (quote : Option Char) → (acc cs : List Char) → List Stretch → Prop
  | none, acc, cs, pieces =>
    '"' ∉ acc → Uncommented (acc.reverse ++ cs) → Cut (acc.reverse ++ outsideFrom none cs) pieces
  | some q, acc, cs, pieces =>
    IsContent acc.reverse → Uncommented cs → ∃ content rest, pieces = .literal content :: rest
      ∧ IsContent content ∧ Cut (outsideFrom (some q) cs) rest

/-- Pieces are cut from a place on as code and literals. -/
theorem isCutFrom_of_stretches {quote : Option Char} {acc cs : List Char} {pieces : List Stretch}
    (h : stretchesFrom quote acc cs = some pieces) : IsCutFrom quote acc cs pieces := by
  fun_induction stretchesFrom quote acc cs generalizing pieces
  case case1 acc =>
    cases h
    intro hquote hcomment
    rw [outsideFrom, List.append_nil]
    rw [List.append_nil] at hcomment
    exact .last (by simpa using hquote) hcomment
  case case2 => cases h
  case case3 acc c rest hc ih =>
    obtain ⟨more, hmore, rfl⟩ := Option.map_eq_some_iff.mp h
    intro hquote hcomment
    obtain ⟨content, last, rfl, hcontent, hlast⟩ :=
      ih hmore .nil hcomment.right_of_append.tail
    rw [outsideFrom, if_pos hc]
    exact .more (by simpa using hquote) hcomment.left_of_append hcontent hlast
  case case4 acc c rest hc ih =>
    intro hquote hcomment
    have hcut := ih h (List.not_mem_cons_of_ne_of_not_mem (by rintro rfl; simp at hc) hquote)
      (by simpa using hcomment)
    rw [outsideFrom, if_neg hc]
    simpa using hcut
  case case5 q acc c rest ih =>
    intro hcontent hcomment
    refine ih h ?_ hcomment.tail.tail
    split
    · exact isContent_plain hcontent (by decide) (by decide)
    · exact isContent_escaped hcontent c
  case case6 q acc c rest hbackslash hc ih =>
    obtain ⟨more, hmore, rfl⟩ := Option.map_eq_some_iff.mp h
    intro hcontent hcomment
    refine ⟨_, more, rfl, hcontent, ?_⟩
    rw [outsideFrom, if_pos hc]
    · exact ih hmore List.not_mem_nil hcomment.tail
    · exact hbackslash
  case case7 q acc c rest hbackslash hc ih =>
    intro hcontent hcomment
    have hnext :
        IsContent (if (c == '"') = true then '"' :: '\\' :: acc else c :: acc).reverse := by
      split
      · exact isContent_escaped hcontent '"'
      · rename_i hquote
        refine isContent_plain hcontent (by simpa using hquote) ?_
        -- A backslash at the end would leave the literal open.
        rintro rfl
        cases rest with
        | nil => cases h
        | cons d rest => exact hbackslash d rest rfl rfl
    rw [outsideFrom, if_neg hc]
    · exact ih h hnext hcomment.tail
    · exact hbackslash

/-- **Pieces.** An answer without comments is cut into code and literals in turn, and its code is
    what stands outside of the literals. -/
theorem cut_of_stretches {cs : List Char} {pieces : List Stretch}
    (h : stretches? cs = some pieces) (hcomment : Uncommented cs) : Cut (outside cs) pieces :=
  isCutFrom_of_stretches h List.not_mem_nil hcomment

/-! ### Keywords -/

/-- Code and what becomes of it when some keywords are replaced. -/
inductive Reworded : List Char → List Char → Prop where
  | nil : Reworded [] []
  | keep (c : Char) {cs out : List Char} : Reworded cs out → Reworded (c :: cs) (c :: out)
  | word (word constant : List Char) {cs out : List Char} : (word, constant) ∈ keywords →
    Reworded cs out → Reworded (word ++ cs) (constant ++ out)

/-- Replacing keywords rewords code. -/
theorem reworded_replaceWords (inWord : Bool) (cs : List Char) :
    Reworded cs (replaceWords inWord cs) := by
  fun_induction replaceWords inWord cs
  case case1 => exact .nil
  case case2 ih => exact .word "True".toList "true".toList (by decide) ih
  case case4 ih => exact .word "False".toList "false".toList (by decide) ih
  case case6 ih => exact .word "None".toList "()".toList (by decide) ih
  all_goals
    rename_i ih
    exact .keep _ ih

/-! ### Lists -/

/-- Code and what becomes of it when lists are replaced, with the two flags of the beginning. -/
inductive Relisted (followed : Bool) : (opened : Bool) → List Char → List Char → Prop where
  | done {opened : Bool} : (opened && followed) = false → Relisted followed opened [] []
  | literal : followed = true → Relisted followed true [] [',', ' ']
  | item {c : Char} {cs out : List Char} : Relisted followed false (c :: cs) out →
    Relisted followed true (c :: cs) (',' :: ' ' :: out)
  | blank {c : Char} {opened : Bool} {cs out : List Char} : Text.isBlank c = true →
    Relisted followed opened cs out → Relisted followed opened (c :: cs) (c :: out)
  | opening {cs out : List Char} : Relisted followed true cs out →
    Relisted followed false ('[' :: cs) (listOpening ++ out)
  | closing {opened : Bool} {cs out : List Char} : Relisted followed false cs out →
    Relisted followed opened (']' :: cs) (')' :: out)
  | keep {c : Char} {cs out : List Char} : c ≠ '[' ∧ c ≠ ']' → Relisted followed false cs out →
    Relisted followed false (c :: cs) (c :: out)

/-- Replacing brackets turns lists into calls. -/
theorem relisted_replaceBrackets (followed opened : Bool) (cs : List Char) :
    Relisted followed opened cs (replaceBrackets followed opened cs) := by
  induction cs generalizing opened with
  | nil =>
    rw [replaceBrackets]
    split
    · rename_i h
      obtain ⟨rfl, hfollowed⟩ := Bool.and_eq_true_iff.mp h
      exact .literal hfollowed
    · rename_i h
      exact .done (by simpa using h)
  | cons c cs ih =>
    -- The first item of a list is read like any other, once it has its comma.
    have hfalse : Relisted followed false (c :: cs) (replaceBrackets followed false (c :: cs)) := by
      by_cases hopen : c = '['
      · subst hopen
        exact .opening (ih true)
      · by_cases hclose : c = ']'
        · subst hclose
          exact .closing (ih false)
        · simp only [replaceBrackets, hopen, hclose, beq_iff_eq, if_false, Bool.false_and,
            Bool.false_eq_true, List.nil_append]
          exact .keep ⟨hopen, hclose⟩ (ih false)
    cases opened with
    | false => exact hfalse
    | true =>
      cases hblank : Text.isBlank c with
      | true =>
        have hopen : c ≠ '[' := by rintro rfl; exact absurd hblank (by decide)
        have hclose : c ≠ ']' := by rintro rfl; exact absurd hblank (by decide)
        simp only [replaceBrackets, hblank, hopen, hclose, beq_iff_eq, if_false, Bool.not_true,
          Bool.and_false, Bool.false_and, Bool.false_eq_true, List.nil_append, Bool.true_and]
        exact .blank hblank (ih true)
      | false =>
        by_cases hclose : c = ']'
        · subst hclose
          exact .closing (ih false)
        · have hitem : replaceBrackets followed true (c :: cs)
              = ',' :: ' ' :: replaceBrackets followed false (c :: cs) := by
            simp [replaceBrackets, hblank, hclose]
          rw [hitem]
          exact .item hfalse

/-! ### Adapted code -/

/-- Where lists have become calls, code holds no brackets of lists. -/
theorem Relisted.isCode {followed opened : Bool} {cs out : List Char}
    (h : Relisted followed opened cs out) (hcs : '"' ∉ cs) : IsCode out := by
  -- Whatever is added by replacing lists is code itself.
  have hadded : IsCode (',' :: ' ' :: listOpening ++ [')']) := by decide
  have hcomma {out : List Char} (hout : IsCode out) : IsCode (',' :: ' ' :: out) :=
    List.forall_mem_cons.mpr ⟨hadded ',' (by decide),
      List.forall_mem_cons.mpr ⟨hadded ' ' (by decide), hout⟩⟩
  induction h with
  | done => exact fun c hc => absurd hc List.not_mem_nil
  | literal => exact hcomma fun c hc => absurd hc List.not_mem_nil
  | item _ ih => exact hcomma (ih hcs)
  | blank hblank _ ih =>
    refine List.forall_mem_cons.mpr ⟨⟨?_, ?_, ?_⟩, ih (List.not_mem_of_not_mem_cons hcs)⟩ <;>
      (rintro rfl; exact absurd hblank (by decide))
  | opening _ ih =>
    intro c hc
    rcases List.mem_append.mp hc with hc | hc
    · exact hadded c (by simp [hc])
    · exact ih (List.not_mem_of_not_mem_cons hcs) c hc
  | closing _ ih =>
    exact List.forall_mem_cons.mpr ⟨by decide, ih (List.not_mem_of_not_mem_cons hcs)⟩
  | keep hbracket _ ih =>
    exact List.forall_mem_cons.mpr ⟨⟨(List.ne_of_not_mem_cons hcs).symm, hbracket⟩,
      ih (List.not_mem_of_not_mem_cons hcs)⟩

/-- Replacing keywords keeps code free of quotes and of brackets of lists. -/
theorem Reworded.isCode {cs out : List Char} (h : Reworded cs out) (hcs : IsCode cs) :
    IsCode out := by
  induction h with
  | nil => exact hcs
  | keep c _ ih =>
    obtain ⟨hc, hcs⟩ := List.forall_mem_cons.mp hcs
    exact List.forall_mem_cons.mpr ⟨hc, ih hcs⟩
  | word word constant hword _ ih =>
    have hconstant : ∀ pair ∈ keywords, IsCode pair.2 := by decide
    intro c hc
    rcases List.mem_append.mp hc with hc | hc
    · exact hconstant _ hword c hc
    · exact ih (fun d hd => hcs d (List.mem_append_right _ hd)) c hc

/-- Adapted code holds neither quotes nor brackets of lists. -/
theorem isCode_codeExpression {cs : List Char} (h : '"' ∉ cs) (followed : Bool) :
    IsCode (codeExpression followed cs) :=
  (reworded_replaceWords _ _).isCode ((relisted_replaceBrackets _ _ _).isCode h)

/-! ### Comments -/

/-- What becomes of a text holds a comment only if the text does. -/
structure AddsNoComment (cs out : List Char) : Prop where
  uncommented : Uncommented cs → Uncommented out
  head : ∀ c, out.head? = some c → c = '/' ∨ c = '*' → cs.head? = some c

/-- Nothing at all holds no comment. -/
theorem AddsNoComment.nil : AddsNoComment [] [] := ⟨id, fun _ h _ => h⟩

/-- With the same character in front, no comment is added either. -/
theorem AddsNoComment.keep (c : Char) {cs out : List Char} (h : AddsNoComment cs out) :
    AddsNoComment (c :: cs) (c :: out) where
  uncommented hcs := by
    obtain ⟨hnext, htail⟩ := List.isChain_cons.mp hcs
    refine List.isChain_cons.mpr ⟨fun d hd hc => ?_, h.uncommented htail⟩
    -- Only where the text goes on in this way does what becomes of it do so.
    constructor
    · intro hslash
      exact (hnext d (h.head d hd (Or.inl hslash)) hc).1 hslash
    · intro hstar
      exact (hnext d (h.head d hd (Or.inr hstar)) hc).2 hstar
  head _ hd _ := hd

/-- Without slashes in front, no comment begins there. -/
theorem uncommented_append {front back : List Char} (h : '/' ∉ front) (hback : Uncommented back) :
    Uncommented (front ++ back) := by
  induction front with
  | nil => exact hback
  | cons c front ih =>
    refine List.isChain_cons.mpr ⟨fun d _ hc => ?_, ih (List.not_mem_of_not_mem_cons h)⟩
    exact absurd hc.symm (List.ne_of_not_mem_cons h)

/-- Nothing that is put in front of a text begins a comment. -/
theorem AddsNoComment.front {cs cs' out : List Char} (h : AddsNoComment cs out) (c : Char)
    (front : List Char) (hslash : '/' ∉ c :: front) (hstar : c ≠ '*') (hcs : cs <:+ cs') :
    AddsNoComment cs' (c :: front ++ out) where
  uncommented hcs' := uncommented_append hslash (h.uncommented (hcs'.suffix hcs))
  head d hd hmark := by
    cases hd
    rcases hmark with rfl | rfl
    · exact absurd List.mem_cons_self hslash
    · exact absurd rfl hstar

/-- Turning lists into calls adds no comment. -/
theorem Relisted.addsNoComment {followed opened : Bool} {cs out : List Char}
    (h : Relisted followed opened cs out) : AddsNoComment cs out := by
  induction h with
  | done => exact .nil
  | literal => exact AddsNoComment.nil.front ',' [' '] (by decide) (by decide) List.suffix_rfl
  | item _ ih => exact ih.front ',' [' '] (by decide) (by decide) List.suffix_rfl
  | blank _ _ ih => exact ih.keep _
  | opening _ ih =>
    exact ih.front 's' "eq(()".toList (by decide) (by decide) (List.suffix_cons _ _)
  | closing _ ih => exact ih.front ')' [] (by decide) (by decide) (List.suffix_cons _ _)
  | keep _ _ ih => exact ih.keep _

/-- Replacing keywords adds no comment. -/
theorem Reworded.addsNoComment {cs out : List Char} (h : Reworded cs out) :
    AddsNoComment cs out := by
  induction h with
  | nil => exact .nil
  | keep c _ ih => exact ih.keep c
  | word word constant hword _ ih =>
    simp only [keywords, List.mem_cons, Prod.mk.injEq, List.not_mem_nil, or_false] at hword
    rcases hword with ⟨rfl, rfl⟩ | ⟨rfl, rfl⟩ | ⟨rfl, rfl⟩
    · exact ih.front 't' "rue".toList (by decide) (by decide) (List.suffix_append _ _)
    · exact ih.front 'f' "alse".toList (by decide) (by decide) (List.suffix_append _ _)
    · exact ih.front '(' ")".toList (by decide) (by decide) (List.suffix_append _ _)

/-- No comment begins in adapted code, unless one begins in the code. -/
theorem uncommented_codeExpression {cs : List Char} (h : Uncommented cs) (followed : Bool) :
    Uncommented (codeExpression followed cs) :=
  (reworded_replaceWords _ _).addsNoComment.uncommented
    ((relisted_replaceBrackets _ _ _).addsNoComment.uncommented h)

end Questionnaire.Answer
