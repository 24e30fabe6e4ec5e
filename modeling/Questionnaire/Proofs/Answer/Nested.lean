import Questionnaire.Proofs.Answer.Levels

namespace Questionnaire.Answer

open Questionnaire.Expression (Level Sign Uncommented signCharacters)

/-!
# Nesting of brackets

Brackets that are closed too often or never are a fault of an answer, but not all brackets that do
not fit are found.  The two kinds of brackets are told apart only when a list is opened, so either
kind closes the other.  A semicolon behind a comma gives up the bracket that it stands in, and the
bracket need not be closed.

* `IsNested` — every bracket is closed by one of its kind, in the right order.
* `SemicolonsFit`, `KindsFit` — no semicolon stands where items are separated by commas, and closing
  brackets are of the kind of those that they close.
* `evaluate_nested` — how the brackets of an answer that has a value are nested.
* `evaluate_mismatched` — brackets of different kinds close each other.
-/

/-! ### Specification -/

/-- Every bracket of a text is closed by one of its kind before those that are opened earlier,
    behind brackets that `closers` are still to close. -/
def isNestedIn : (closers : List Char) → List Char → Bool
  | closers, [] => closers.isEmpty
  | closers, c :: rest =>
    if c == '(' then isNestedIn (')' :: closers) rest
    else if c == '[' then isNestedIn (']' :: closers) rest
    else if c == ')' || c == ']' then
      match closers with
      | closer :: closers => closer == c && isNestedIn closers rest
      | [] => false
    else isNestedIn closers rest

/-- Every bracket of a text is closed by one of its kind before those that are opened earlier. -/
def IsNested (cs : List Char) : Prop := isNestedIn [] cs = true

/-- Whether brackets are nested can be decided. -/
instance (cs : List Char) : Decidable (IsNested cs) := inferInstanceAs (Decidable (_ = true))

/-- A bracket of either kind as a round one. -/
def round (c : Char) : Char := if c == '[' then '(' else if c == ']' then ')' else c

/-- The number of brackets that are opened. -/
def openings (cs : List Char) : Nat := cs.countP fun c => c == '(' || c == '['

/-- The number of brackets that are closed. -/
def closings (cs : List Char) : Nat := cs.countP fun c => c == ')' || c == ']'

/-- In the innermost bracket open behind a text, or in the text as a whole if there is none, items
    are separated by commas. -/
def EndsInList (cs : List Char) : Prop :=
  ∃ levels, Level.behind [.fresh] cs = some (.listed :: levels)

/-- No semicolon stands where items are separated by commas. -/
def SemicolonsFit (cs : List Char) : Prop :=
  ∀ front back, cs = front ++ ';' :: back → ¬ EndsInList front

/-- The open brackets behind a character, the innermost first.  Either kind closes the other. -/
def openBehind (opened : List Char) (c : Char) : List Char :=
  if c == '(' || c == '[' then c :: opened
  else if c == ')' || c == ']' then opened.tail
  else opened

/-- The bracket that closes a given one. -/
def partner (c : Char) : Char := if c == '(' then ')' else ']'

/-- Every closing bracket is of the kind of the innermost bracket that is open in front of it. -/
def KindsFit (cs : List Char) : Prop :=
  ∀ front c back, cs = front ++ c :: back → c = ')' ∨ c = ']' →
    (front.foldl openBehind []).head?.map partner = some c

/-! ### Counting -/

/-- The brackets that open in two texts are those of both. -/
theorem openings_append (front back : List Char) :
    openings (front ++ back) = openings front + openings back := List.countP_append

/-- The brackets that close in two texts are those of both. -/
theorem closings_append (front back : List Char) :
    closings (front ++ back) = closings front + closings back := List.countP_append

/-- Characters that are no signs open and close nothing. -/
theorem counts_of_not_mem {c : Char} (h : c ∉ signCharacters) :
    openings [c] = 0 ∧ closings [c] = 0 := by
  simp only [signCharacters, List.mem_cons, List.not_mem_nil, or_false, not_or] at h
  simp [openings, closings, h]

/-- What a sign does to the levels, with the number of brackets that it opens and closes. -/
theorem step_length {c : Char} {sign : Sign} (hc : Sign.ofChar? c = some sign)
    {levels levels' : List Level} (h : sign.step levels = some levels') :
    levels'.length + closings [c] ≤ levels.length + openings [c] := by
  -- There are only six signs, and each of them has its own step.
  have hmem : c ∈ signCharacters := by
    by_contra hno
    rw [Expression.ofChar_eq_none_iff.mpr hno] at hc
    cases hc
  simp only [signCharacters, List.mem_cons, List.not_mem_nil, or_false] at hmem
  rcases hmem with rfl | rfl | rfl | rfl | rfl | rfl
  all_goals cases hc
  -- A bracket that opens adds one level, whichever kind it is.
  case inl | inr.inl =>
    cases h
    exact Nat.le_refl _
  -- One that closes takes off a level, and there is one more below.
  case inr.inr.inl | inr.inr.inr.inl =>
    rcases levels with - | ⟨level, - | ⟨below, rest⟩⟩ <;> cases h
    exact Nat.le_refl _
  case inr.inr.inr.inr.inl =>
    rcases levels with - | ⟨⟨⟩, rest⟩ <;> cases h <;> exact Nat.le_refl _
  -- A semicolon may discard levels, so this is no equation.
  case inr.inr.inr.inr.inr =>
    rcases levels with - | ⟨⟨⟩, rest⟩
    · cases h
    · cases h
      exact Nat.le_refl _
    all_goals exact (Expression.discard_length h).2

/-- Levels are closed only by brackets and given up only by semicolons. -/
theorem behind_length {cs : List Char} {levels levels' : List Level}
    (h : Level.behind levels cs = some levels') :
    levels'.length + closings cs ≤ levels.length + openings cs := by
  -- Each character changes the levels by at most as much as it opens less what it closes.
  induction cs generalizing levels with
  | nil =>
    cases h
    exact Nat.le_refl _
  | cons c cs ih =>
    have hopen : openings (c :: cs) = openings [c] + openings cs := openings_append [c] cs
    have hclose : closings (c :: cs) = closings [c] + closings cs := closings_append [c] cs
    cases hsign : Sign.ofChar? c with
    | none =>
      rw [Level.behind_of_none hsign] at h
      obtain ⟨hopenings, hclosings⟩ := counts_of_not_mem (Expression.ofChar_eq_none_iff.mp hsign)
      have hrest := ih h
      omega
    | some sign =>
      rw [Level.behind_of_some hsign] at h
      obtain ⟨between, hstep, h⟩ := Option.bind_eq_some_iff.mp h
      have hfirst := step_length hsign hstep
      have hrest := ih h
      omega

/-- Where a semicolon gives up a level, a bracket is never closed. -/
theorem closings_lt {front back : List Char} {levels more levels' : List Level}
    (hfront : Level.behind levels front = some (.listed :: more))
    (h : Level.behind levels (front ++ ';' :: back) = some levels') :
    levels'.length + closings (front ++ ';' :: back)
      < levels.length + openings (front ++ ';' :: back) := by
  rw [Level.behind_append, hfront, Option.bind_some, Level.behind_of_some rfl] at h
  obtain ⟨between, hstep, h⟩ := Option.bind_eq_some_iff.mp h
  have hdiscard : Expression.discard more = some between := hstep
  have hbetween := (Expression.discard_length hdiscard).2
  have hbefore := behind_length hfront
  have hafter := behind_length h
  have hopen : openings (';' :: back) = openings back := rfl
  have hclose : closings (';' :: back) = closings back := rfl
  rw [openings_append, closings_append, hopen, hclose]
  rw [List.length_cons] at hbefore
  omega

/-! ### Nesting -/

/-- Only square brackets are made round. -/
theorem round_of_ne {c : Char} (h : c ≠ '[' ∧ c ≠ ']') : round c = c := by
  simp [round, h.1, h.2]

/-- The four brackets, and characters that are none. -/
theorem bracket_cases (c : Char) : (c = '(' ∨ c = '[') ∨ (c = ')' ∨ c = ']')
    ∨ (round c = c ∧ c ≠ '(' ∧ c ≠ '[' ∧ c ≠ ')' ∧ c ≠ ']') := by
  by_cases hround : c = '(' ∨ c = '['
  · exact Or.inl hround
  · by_cases hclose : c = ')' ∨ c = ']'
    · exact Or.inr (Or.inl hclose)
    · rw [not_or] at hround hclose
      exact Or.inr (Or.inr ⟨round_of_ne ⟨hround.2, hclose.2⟩, hround.1, hround.2, hclose⟩)

/-- Whatever its kind, a bracket that opens waits for a round one. -/
theorem isNestedIn_opening {c : Char} (h : c = '(' ∨ c = '[') (closers cs : List Char) :
    isNestedIn closers ((c :: cs).map round) = isNestedIn (')' :: closers) (cs.map round) := by
  rcases h with rfl | rfl <;> rfl

/-- Whatever its kind, a bracket that closes ends the wait for one. -/
theorem isNestedIn_closing {c : Char} (h : c = ')' ∨ c = ']') (closer : Char)
    (closers cs : List Char) : isNestedIn (closer :: closers) ((c :: cs).map round)
      = (closer == ')' && isNestedIn closers (cs.map round)) := by
  rcases h with rfl | rfl <;> rfl

/-- Any other character leaves what is waited for. -/
theorem isNestedIn_plain {c : Char} (h : c ≠ '(' ∧ c ≠ '[' ∧ c ≠ ')' ∧ c ≠ ']')
    (closers cs : List Char) : isNestedIn closers (c :: cs) = isNestedIn closers cs := by
  rw [isNestedIn.eq_def]
  simp [h]

/-- In a text with round brackets, any other character leaves what is waited for. -/
theorem isNestedIn_other {c : Char} (hround : round c = c)
    (h : c ≠ '(' ∧ c ≠ '[' ∧ c ≠ ')' ∧ c ≠ ']') (closers cs : List Char) :
    isNestedIn closers ((c :: cs).map round) = isNestedIn closers (cs.map round) := by
  rw [List.map_cons, hround, isNestedIn_plain h]

/-- Nested brackets are closed as often as they are opened. -/
theorem closings_of_isNestedIn {closers cs : List Char}
    (h : isNestedIn closers (cs.map round) = true) :
    closings cs = openings cs + closers.length := by
  -- What is waited for is what has been opened and is not closed yet.
  induction cs generalizing closers with
  | nil =>
    cases closers with
    | nil => rfl
    | cons => cases h
  | cons c cs ih =>
    have hopen : openings (c :: cs) = openings [c] + openings cs := openings_append [c] cs
    have hclose : closings (c :: cs) = closings [c] + closings cs := closings_append [c] cs
    -- Three kinds of characters: those that open, those that close, and all others.
    rcases bracket_cases c with hc | hc | ⟨hround, hc⟩
    · have hcount : openings [c] = 1 ∧ closings [c] = 0 := by rcases hc with rfl | rfl <;> decide
      rw [isNestedIn_opening hc] at h
      have hrest := ih h
      rw [List.length_cons] at hrest
      omega
    · have hcount : openings [c] = 0 ∧ closings [c] = 1 := by rcases hc with rfl | rfl <;> decide
      cases closers with
      | nil => rcases hc with rfl | rfl <;> cases h
      | cons closer closers =>
        rw [isNestedIn_closing hc, Bool.and_eq_true] at h
        have hrest := ih h.2
        rw [List.length_cons]
        omega
    · have hcount : openings [c] = 0 ∧ closings [c] = 0 := by
        simp [openings, closings, hc]
      rw [isNestedIn_other hround hc] at h
      have hrest := ih h
      omega

/-- Where no semicolon gives up a level, the levels are those of the brackets. -/
theorem isNestedIn_of_behind {cs : List Char} {top last : Level} {below : List Level}
    (h : Level.behind (top :: below) cs = some [last])
    (hfit : ∀ front back, cs = front ++ ';' :: back → ∀ more,
      Level.behind (top :: below) front ≠ some (.listed :: more)) :
    isNestedIn (List.replicate below.length ')') (cs.map round) = true := by
  induction cs generalizing top below with
  | nil =>
    cases h
    rfl
  | cons c cs ih =>
    -- What holds in front of later semicolons holds behind `c`.
    have hrest {top' : Level} {below' : List Level}
        (hstep : Level.behind (top :: below) [c] = some (top' :: below')) :
        isNestedIn (List.replicate below'.length ')') (cs.map round) = true := by
      have hbehind (front : List Char) :
          Level.behind (top :: below) (c :: front) = Level.behind (top' :: below') front := by
        have hsplit := Level.behind_append (top :: below) [c] front
        rw [hstep] at hsplit
        exact hsplit
      refine ih ((hbehind cs).symm.trans h) fun front back hcs more => ?_
      rw [← hbehind]
      exact hfit (c :: front) back (by rw [hcs, List.cons_append]) more
    rcases bracket_cases c with hc | hc | ⟨hround, hc⟩
    · rw [isNestedIn_opening hc, ← List.replicate_succ]
      rcases hc with rfl | rfl
      · exact hrest rfl
      · exact hrest rfl
    · cases below with
      | nil => rcases hc with rfl | rfl <;> cases h
      | cons below more =>
        rw [List.length_cons, List.replicate_succ, isNestedIn_closing hc, Bool.and_eq_true]
        rcases hc with rfl | rfl
        · exact ⟨rfl, hrest rfl⟩
        · exact ⟨rfl, hrest rfl⟩
    · rw [isNestedIn_other hround hc]
      by_cases hcomma : c = ','
      · subst hcomma
        cases top <;> exact hrest rfl
      · by_cases hsemicolon : c = ';'
        · subst hsemicolon
          cases top with
          | fresh => exact hrest rfl
          | listed => exact absurd rfl (hfit [] cs rfl below)
          | chained => exact hrest rfl
        · have hnone : Sign.ofChar? c = none := by
            rw [Expression.ofChar_eq_none_iff]
            simp [signCharacters, hc, hcomma, hsemicolon]
          exact hrest (Level.behind_of_none hnone _ _)

/-! ### Kinds -/

/-- The condition on the kinds of brackets, behind brackets that are open. -/
def KindsFitIn (opened cs : List Char) : Prop :=
  ∀ front c back, cs = front ++ c :: back → c = ')' ∨ c = ']' →
    (front.foldl openBehind opened).head?.map partner = some c

/-- Kinds fit from a place on if the next bracket has the kind that is waited for, and the rest
    fits. -/
theorem kindsFitIn_cons (opened : List Char) (c : Char) (cs : List Char) :
    KindsFitIn opened (c :: cs) ↔ (c = ')' ∨ c = ']' → opened.head?.map partner = some c)
      ∧ KindsFitIn (openBehind opened c) cs := by
  constructor
  · intro h
    refine ⟨h [] c cs rfl, fun front d back hcs => ?_⟩
    exact h (c :: front) d back (by rw [hcs, List.cons_append])
  · rintro ⟨hfirst, hrest⟩ front d back hcs
    cases front with
    | nil =>
      obtain ⟨rfl, -⟩ := List.cons.inj hcs
      exact hfirst
    | cons e front =>
      obtain ⟨rfl, rfl⟩ := List.cons.inj hcs
      exact hrest front d back rfl

/-- Brackets are nested if they are so without regard to their kinds and the kinds fit. -/
theorem isNestedIn_iff {opened cs : List Char} (hopened : ∀ c ∈ opened, c = '(' ∨ c = '[') :
    isNestedIn (opened.map partner) cs = true
      ↔ isNestedIn (List.replicate opened.length ')') (cs.map round) = true
        ∧ KindsFitIn opened cs := by
  -- Kinds matter only where a bracket closes; elsewhere both sides go on alike.
  induction cs generalizing opened with
  | nil =>
    have hnone : KindsFitIn opened [] := fun front c back h => by simp at h
    rw [and_iff_left hnone]
    cases opened <;> exact Iff.rfl
  | cons c cs ih =>
    rw [kindsFitIn_cons]
    rcases bracket_cases c with hc | hc | ⟨hround, hc⟩
    · have hvacuous : c = ')' ∨ c = ']' → opened.head?.map partner = some c := by
        rcases hc with rfl | rfl <;> simp
      rw [isNestedIn_opening hc, ← List.replicate_succ, and_iff_right hvacuous]
      have hnext := ih (List.forall_mem_cons.mpr ⟨hc, hopened⟩)
      rcases hc with rfl | rfl
      · exact hnext
      · exact hnext
    -- Here the bracket has to be round on one side, and of the kind that is open on the other.
    · cases opened with
      | nil => rcases hc with rfl | rfl <;> exact iff_of_false nofun (by rintro ⟨⟨⟩, -⟩)
      | cons opener opened =>
        have hnext := ih (List.forall_mem_cons.mp hopened).2
        have hopen : openBehind (opener :: opened) c = opened := by rcases hc with rfl | rfl <;> rfl
        have hclose : isNestedIn ((opener :: opened).map partner) (c :: cs)
            = (partner opener == c && isNestedIn (opened.map partner) cs) := by
          rcases hc with rfl | rfl <;> rfl
        rw [hclose, hopen, List.length_cons, List.replicate_succ, isNestedIn_closing hc,
          Bool.and_eq_true, beq_iff_eq, hnext, imp_iff_right hc, List.head?_cons, Option.map_some,
          Option.some_inj, beq_self_eq_true, Bool.true_and]
        tauto
    · have hvacuous : c = ')' ∨ c = ']' → opened.head?.map partner = some c := fun h =>
        absurd h (not_or.mpr hc.2.2)
      have hopen : openBehind opened c = opened := by simp [openBehind, hc]
      rw [isNestedIn_plain hc, isNestedIn_other hround hc, hopen, and_iff_right hvacuous]
      exact ih hopened

/-- Brackets are nested if they are so with all made round, and if their kinds fit. -/
theorem isNested_iff {cs : List Char} :
    IsNested cs ↔ IsNested (cs.map round) ∧ KindsFit cs :=
  isNestedIn_iff (List.forall_mem_nil _)

/-! ### Results -/

/-- Without the two beginnings of a comment there is none. -/
theorem uncommented_of_absent {cs : List Char} (hline : ¬ "//".toList <:+: cs)
    (hblock : ¬ "/*".toList <:+: cs) : Uncommented cs := by
  induction cs with
  | nil => exact .nil
  | cons c cs ih =>
    have hsuffix : cs <:+: c :: cs := (List.suffix_cons c cs).isInfix
    refine List.isChain_cons.mpr
      ⟨?_, ih (fun h => hline (h.trans hsuffix)) fun h => hblock (h.trans hsuffix)⟩
    rintro d hd rfl
    obtain ⟨more, rfl⟩ := List.head?_eq_some_iff.mp hd
    constructor
    · rintro rfl
      exact hline ⟨[], more, rfl⟩
    · rintro rfl
      exact hblock ⟨[], more, rfl⟩

/-- **Brackets.** If an answer without comments has a value, no bracket outside of its literals is
    closed before it is opened.  Apart from their kinds, the brackets are nested exactly if no
    semicolon stands where items are separated by commas; they are nested as they stand exactly if
    their kinds fit, too. -/
theorem evaluate_nested {functions : List String} {answer : String} {v : Value}
    (h : evaluate functions answer = .ok v) (hline : ¬ "//".toList <:+: answer.toList)
    (hblock : ¬ "/*".toList <:+: answer.toList) :
    (∀ front, front <+: outside answer.toList → closings front ≤ openings front)
    ∧ (IsNested ((outside answer.toList).map round) ↔ SemicolonsFit (outside answer.toList))
    ∧ (IsNested (outside answer.toList)
      ↔ SemicolonsFit (outside answer.toList) ∧ KindsFit (outside answer.toList)) := by
  obtain ⟨last, hlast⟩ := levels_of_evaluate h (uncommented_of_absent hline hblock)
  have hnested : IsNested ((outside answer.toList).map round)
      ↔ SemicolonsFit (outside answer.toList) := by
    constructor
    · rintro hnested front back hsplit ⟨more, hmore⟩
      -- The bracket that the semicolon gives up is never closed.
      have hequal := closings_of_isNestedIn hnested
      rw [hsplit] at hlast hequal
      have hless := closings_lt hmore hlast
      simp only [List.length_cons, List.length_nil] at hless hequal
      omega
    · intro hfit
      exact isNestedIn_of_behind hlast fun front back hsplit more hmore =>
        hfit front back hsplit ⟨more, hmore⟩
  refine ⟨?_, hnested, isNested_iff.trans (and_congr_left' hnested)⟩
  rintro front ⟨back, hback⟩
  rw [← hback, Level.behind_append] at hlast
  obtain ⟨levels, hlevels, -⟩ := Option.bind_eq_some_iff.mp hlast
  have hlength := behind_length hlevels
  have hopen := List.length_pos_iff.mpr (Level.behind_ne_nil hlevels (List.cons_ne_nil _ _))
  rw [List.length_singleton] at hlength
  omega

/-- Behind `1; (2, 3` the semicolon gives up the parenthesis, which is never closed. -/
theorem evaluate_nested_semicolon :
    evaluate [] "1; (2, 3; 4" = .ok (.seq [.int 2, .int 3, .int 4])
    ∧ EndsInList "1; (2, 3".toList ∧ ¬ IsNested (outside "1; (2, 3; 4".toList) := by
  -- The semicolon closes the tuple that has been opened in the chain, so no bracket has to.
  have htokens : Expression.tokensOf "1; (2, 3; 4".toList =
      .ok [.constant (.int 1), .semicolon, .opening, .constant (.int 2), .comma,
        .constant (.int 3), .semicolon, .constant (.int 4)] := rfl
  have htree : Expression.tree [.constant (.int 1), .semicolon, .opening, .constant (.int 2),
        .comma, .constant (.int 3), .semicolon, .constant (.int 4)] =
      .ok (.over .root [] (.over .chain [.bare .root, .over .root [] (.bare (.constant (.int 1)))]
        (.over .chain [] (.over .root [] (.over .tuple
          [.over .root [] (.bare (.constant (.int 3))), .over .root [] (.bare (.constant (.int 2)))]
          (.bare (.constant (.int 4)))))))) := rfl
  have hvalue : evaluate [] "1; (2, 3; 4" = .ok (.seq [.int 2, .int 3, .int 4]) := by
    have hexpression : expression? "1; (2, 3; 4".toList = some "1; (2, 3; 4".toList := rfl
    show evaluateTrimmed [] "1; (2, 3; 4".toList = _
    simp only [evaluateTrimmed, hexpression, Expression.evaluate_of_tokens htokens htree rfl]
    rfl
  have hlist : EndsInList "1; (2, 3".toList := ⟨[.chained], rfl⟩
  have houtside : outside "1; (2, 3; 4".toList = "1; (2, 3; 4".toList := rfl
  obtain ⟨-, -, hnested⟩ := evaluate_nested hvalue (by decide) (by decide)
  refine ⟨hvalue, hlist, fun h => ?_⟩
  exact (hnested.mp h).1 "1; (2, 3".toList " 4".toList houtside hlist

/-- Brackets of different kinds close each other. -/
theorem evaluate_mismatched :
    ¬ ∀ (functions : List String) (answer : String) (v : Value),
      evaluate functions answer = .ok v → ¬ "//".toList <:+: answer.toList →
      ¬ "/*".toList <:+: answer.toList → IsNested (outside answer.toList) := by
  intro hall
  have htokens : Expression.tokensOf "(1)".toList =
      .ok [.opening, .constant (.int 1), .closing] := rfl
  have htree : Expression.tree [.opening, .constant (.int 1), .closing] =
      .ok (.over .root [] (.over .root [] (.bare (.constant (.int 1))))) := rfl
  have hvalue : evaluate [] "(1]" = .ok (.int 1) := by
    have hexpression : expression? "(1]".toList = some "(1)".toList := rfl
    show evaluateTrimmed [] "(1]".toList = _
    simp only [evaluateTrimmed, hexpression, Expression.evaluate_of_tokens htokens htree rfl]
    rfl
  exact absurd (hall [] "(1]" (.int 1) hvalue (by decide) (by decide)) (by decide)

end Questionnaire.Answer
