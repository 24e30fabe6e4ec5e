import Questionnaire.Proofs.Answer.Outside
import Questionnaire.Proofs.Answer.Written

namespace Questionnaire.Answer

open Questionnaire.Expression (IsContent Level Lexeme Sign Token Uncommented lexemesFrom)

/-!
# Levels of answers

An answer has the brackets and separators of its expression: adapting its code turns each bracket of
a list into a parenthesis, and adds parentheses in pairs and the comma in front of the first item of
a list.  So the levels that are open behind an answer are those behind the tokens of its expression.

* `signs_of_joined` — the pieces of the expression have the signs of the adapted code.
* `Reworded.behind`, `Relisted.behind`, `Cut.behind` — adapting code leaves as many levels open.
* `levels_of_evaluate` — behind an answer that has a value, only the outermost level is open.
-/

/-! ### Signs of the expression -/

/-- The adapted code of a row of pieces. -/
def adapted : List Stretch → List Char
  | [] => []
  | .code cs :: rest => codeExpression (!rest.isEmpty) cs ++ adapted rest
  | .literal _ :: rest => adapted rest

/-- The pieces of the expression have the signs of the adapted code. -/
theorem signs_of_joined {cs : List Char} {pieces : List Stretch} (h : Cut cs pieces)
    {acc : List Char} {lexemes : List Lexeme}
    (hlexemes : lexemesFrom .code acc (joined pieces) = .ok lexemes) :
    lexemes.filterMap Lexeme.sign? = (adapted pieces).filterMap Sign.ofChar? := by
  induction h generalizing acc lexemes with
  | last hquote hcomment =>
    obtain ⟨acc', more, hmore, hsigns⟩ := Expression.signs_of_code
      (isCode_codeExpression hquote false) (uncommented_codeExpression hcomment false)
      (by rintro c ⟨⟩) hlexemes
    -- Nothing comes behind the last piece but the word that is pending.
    cases hmore
    rw [hsigns, Expression.signs_of_flush, List.filterMap_nil, List.append_nil]
    exact congrArg (List.filterMap Sign.ofChar?) (List.append_nil _).symm
  | @more code content cs rest hquote hcomment hcontent _ ih =>
    obtain ⟨acc', more, hmore, hsigns⟩ := Expression.signs_of_code
      (isCode_codeExpression hquote true) (uncommented_codeExpression hcomment true)
      (by rintro c ⟨⟩; rfl) hlexemes
    rw [joined, List.cons_append, Expression.lexemesFrom_code (by decide), if_pos (by rfl)] at hmore
    obtain ⟨quoted, hquoted, rfl⟩ := Except.map_eq_ok.mp hmore
    obtain ⟨s, last, hlast, rfl⟩ := Expression.exists_of_quoted hcontent hquoted
    rw [hsigns, Expression.signs_of_flush, List.filterMap_cons_none rfl, ih hlast,
      ← List.filterMap_append]
    rfl

/-! ### Levels of adapted code -/

/-- Keywords leave the open levels as they are. -/
theorem Reworded.behind {cs out : List Char} (h : Reworded cs out) {levels : List Level}
    (hne : levels ≠ []) : Level.behind levels out = Level.behind levels cs := by
  induction h generalizing levels with
  | nil => rfl
  | keep c _ ih =>
    cases hsign : Sign.ofChar? c with
    | none => rw [Level.behind_of_none hsign, Level.behind_of_none hsign, ih hne]
    | some sign =>
      rw [Level.behind_of_some hsign, Level.behind_of_some hsign]
      cases hstep : sign.step levels with
      | none => rfl
      | some levels' => exact ih (Sign.step_ne_nil hstep hne)
  | word word constant hword _ ih =>
    obtain ⟨top, below, rfl⟩ := List.exists_cons_of_ne_nil hne
    simp only [keywords, List.mem_cons, Prod.mk.injEq, List.not_mem_nil, or_false] at hword
    rcases hword with ⟨rfl, rfl⟩ | ⟨rfl, rfl⟩ | ⟨rfl, rfl⟩
    all_goals
      rw [Level.behind_append, Level.behind_append]
      exact ih hne

/-- The open levels behind adapted code and behind the code itself.  While the comma in front of the
    first item of a list is still to come, they differ. -/
inductive Lags : Bool → List Level → List Level → Prop where
  | even {levels : List Level} : levels ≠ [] → Lags false levels levels
  | behind {levels : List Level} : levels ≠ [] →
    Lags true (.fresh :: levels) (.listed :: levels)

/-- Levels that lag behind others are as many. -/
theorem Lags.length_eq {opened : Bool} {levels levels' : List Level}
    (h : Lags opened levels levels') : levels.length = levels'.length := by
  cases h <;> rfl

/-- Lists that become calls open and close the levels of their brackets, up to a comma that is still
    to come. -/
theorem Relisted.behind {followed opened : Bool} {cs out : List Char}
    (h : Relisted followed opened cs out) {actual actual' ideal : List Level}
    (hlags : Lags opened actual ideal) (hout : Level.behind actual out = some actual') :
    ∃ opened' ideal', (followed = true → opened' = false) ∧ Lags opened' actual' ideal'
      ∧ Level.behind ideal cs = some ideal' := by
  induction h generalizing actual ideal with
  | @done opened hend =>
    cases hout
    exact ⟨opened, ideal, fun hfollowed => by simpa [hfollowed] using hend, hlags, rfl⟩
  | literal =>
    cases hlags with
    | behind hne =>
      cases hout
      exact ⟨false, _, fun _ => rfl, .even (List.cons_ne_nil _ _), rfl⟩
  | item _ ih =>
    cases hlags with
    | behind hne => exact ih (.even (List.cons_ne_nil _ _)) hout
  | blank hblank _ ih =>
    have hsign := Expression.ofChar_of_isBlank hblank
    rw [Level.behind_of_none hsign] at hout ⊢
    exact ih hlags hout
  | opening _ ih =>
    cases hlags with
    | even hne => exact ih (.behind hne) hout
  | closing _ ih =>
    rw [Level.behind_of_some rfl] at hout ⊢
    obtain ⟨levels, hstep, hout⟩ := Option.bind_eq_some_iff.mp hout
    cases hlags with
    | even hne =>
      rw [hstep]
      exact ih (.even (Sign.step_ne_nil hstep hne)) hout
    | behind hne =>
      -- The bracket that is closed is all the difference.
      obtain ⟨below, rest, rfl⟩ := List.exists_cons_of_ne_nil hne
      cases hstep
      exact ih (.even hne) hout
  | @keep c _ _ _ _ ih =>
    cases hlags with
    | even hne =>
      cases hsign : Sign.ofChar? c with
      | none =>
        rw [Level.behind_of_none hsign] at hout ⊢
        exact ih (.even hne) hout
      | some sign =>
        rw [Level.behind_of_some hsign] at hout ⊢
        obtain ⟨levels, hstep, hout⟩ := Option.bind_eq_some_iff.mp hout
        rw [hstep]
        exact ih (.even (Sign.step_ne_nil hstep hne)) hout

/-- Behind adapted code as many levels are open as behind the code. -/
theorem Cut.behind {cs : List Char} {pieces : List Stretch} (h : Cut cs pieces)
    {levels actual : List Level} (hne : levels ≠ [])
    (hactual : Level.behind levels (adapted pieces) = some actual) :
    ∃ ideal, Level.behind levels cs = some ideal ∧ ideal.length = actual.length := by
  have hcode {followed : Bool} {code : List Char} {levels actual : List Level} (hne : levels ≠ [])
      (hout : Level.behind levels (codeExpression followed code) = some actual) :
      ∃ opened ideal, (followed = true → opened = false) ∧ Lags opened actual ideal
        ∧ Level.behind levels code = some ideal := by
    rw [codeExpression, (reworded_replaceWords _ _).behind hne] at hout
    exact (relisted_replaceBrackets followed false code).behind (.even hne) hout
  induction h generalizing levels with
  | last hquote hcomment =>
    rw [adapted, adapted, List.append_nil] at hactual
    obtain ⟨opened, ideal, -, hlags, hideal⟩ := hcode hne hactual
    exact ⟨ideal, hideal, hlags.length_eq.symm⟩
  | more hquote hcomment hcontent _ ih =>
    rw [adapted, adapted, Level.behind_append] at hactual
    obtain ⟨between, hbetween, hactual⟩ := Option.bind_eq_some_iff.mp hactual
    obtain ⟨opened, ideal, hopened, hlags, hideal⟩ := hcode hne hbetween
    -- In front of a literal, the comma has come.
    obtain rfl : opened = false := hopened rfl
    cases hlags with
    | even hne =>
      rw [Level.behind_append, hideal]
      exact ih hne hactual

/-! ### Answers -/

/-- Characters that are no quotes stand outside in front of the rest. -/
theorem outside_append {front : List Char} (h : ∀ c ∈ front, c ≠ '"' ∧ c ≠ '\x27')
    (back : List Char) : outside (front ++ back) = front ++ outside back := by
  induction front with
  | nil => rfl
  | cons c front ih =>
    obtain ⟨⟨hdouble, hsingle⟩, hfront⟩ := List.forall_mem_cons.mp h
    rw [List.cons_append, outside, outsideFrom, if_neg (by simp [hdouble, hsingle])]
    exact congrArg (c :: ·) (ih hfront)

/-- Where all literals are closed, the text behind them is read by itself. -/
theorem outsideFrom_append {quote : Option Char} {acc cs : List Char} {pieces : List Stretch}
    (h : stretchesFrom quote acc cs = some pieces) (hquote : quote ≠ some '\\')
    (back : List Char) : outsideFrom quote (cs ++ back) = outsideFrom quote cs ++ outside back := by
  -- Along the recursion of the cutter, whose quote is that of `outsideFrom`.
  fun_induction stretchesFrom quote acc cs generalizing pieces
  case case1 => rfl
  case case2 => cases h
  case case3 c rest hc ih =>
    obtain ⟨more, hmore, -⟩ := Option.map_eq_some_iff.mp h
    -- A quote that opens a literal is no backslash, so the invariant goes on to hold.
    have hnext : some c ≠ some '\\' := by
      rintro ⟨⟩
      exact absurd hc (by decide)
    rw [List.cons_append, outsideFrom, outsideFrom, if_pos hc, if_pos hc, ih hmore hnext]
  case case4 c rest hc ih =>
    rw [List.cons_append, outsideFrom, outsideFrom, if_neg hc, if_neg hc, ih h hquote,
      List.cons_append]
  case case5 ih => exact ih h hquote
  case case6 q acc c rest _ hc ih =>
    obtain ⟨more, hmore, -⟩ := Option.map_eq_some_iff.mp h
    have hescape : c ≠ '\\' := fun hc' => hquote (by rw [← hc', beq_iff_eq.mp hc])
    rw [List.cons_append, outsideFrom, outsideFrom, if_pos hc, ih hmore (by simp)]
    all_goals exact fun _ _ hc' => absurd hc' hescape
  -- A backslash at the very end would leave the literal open.
  case case7 q acc c rest hbackslash hc ih =>
    have hescape : c ≠ '\\' := by
      rintro rfl
      cases rest with
      | nil => cases h
      | cons d rest => exact hbackslash d rest rfl rfl
    rw [List.cons_append, outsideFrom, outsideFrom, if_neg hc, ih h hquote]
    all_goals exact fun _ _ hc' => absurd hc' hescape

/-- A blank is no quote. -/
theorem notQuote_of_isBlank {c : Char} (h : Text.isBlank c = true) : c ≠ '"' ∧ c ≠ '\x27' := by
  constructor <;> (rintro rfl; exact absurd h (by decide))

/-- The blanks around an answer leave no level open. -/
theorem behind_outside_trim {cs : List Char} {pieces : List Stretch}
    (h : stretches? (Text.trim cs) = some pieces) (levels : List Level) :
    Level.behind levels (outside cs) = Level.behind levels (outside (Text.trim cs)) := by
  obtain ⟨before, after, hbefore, hafter, hcs⟩ := Text.exists_gaps cs
  -- Gaps have no signs, so they leave every level as it is.
  have hgap {gap : List Char} (hgap : Text.IsGap gap) (levels : List Level) :
      Level.behind levels gap = some levels := by
    have hnone : gap.filterMap Sign.ofChar? = [] :=
      List.filterMap_eq_nil_iff.mpr fun c hc => Expression.ofChar_of_isBlank (hgap c hc)
    rw [Level.behind, hnone]
    rfl
  have hafter' : outside after = after := by
    have hrest := outside_append (fun c hc => notQuote_of_isBlank (hafter c hc)) []
    rwa [List.append_nil, show outside [] = [] from rfl, List.append_nil] at hrest
  -- With its literals closed, the trimmed text ends in code, and the gap behind it is code too.
  have houtside : outside cs = before ++ (outside (Text.trim cs) ++ after) := by
    conv_lhs => rw [hcs, List.append_assoc]
    rw [outside_append fun c hc => notQuote_of_isBlank (hbefore c hc)]
    congr 1
    rw [outside, outsideFrom_append h (by simp), hafter']
    rfl
  rw [houtside, Level.behind_append, hgap hbefore, Option.bind_some, Level.behind_append]
  cases Level.behind levels (outside (Text.trim cs)) with
  | none => rfl
  | some levels' => exact hgap hafter levels'

/-- Identifiers hold neither quotes nor signs. -/
theorem plain_of_isIdentifier {cs : List Char} (h : isIdentifier cs = true) :
    ∀ c ∈ cs, (c ≠ '"' ∧ c ≠ '\x27') ∧ Sign.ofChar? c = none := by
  have hother : ∀ d ∈ '"' :: '\x27' :: Expression.signCharacters, d.isAlphanum = false ∧ d ≠ '_' :=
    List.all_iff_forall_prop.mp (by decide)
  intro c hc
  have hno : c ∉ '"' :: '\x27' :: Expression.signCharacters := by
    intro hmem
    rcases isAlphanum_of_isIdentifier h c hc with halphanum | hunderscore
    · rw [(hother c hmem).1] at halphanum
      cases halphanum
    · exact (hother c hmem).2 hunderscore
  rw [List.mem_cons, List.mem_cons, not_or, not_or] at hno
  exact ⟨⟨hno.1, hno.2.1⟩, Expression.ofChar_eq_none_iff.mpr hno.2.2⟩

/-- Behind an expression that can be read, only one level is open. -/
theorem levels_of_evaluate_joined {cs : List Char} {pieces : List Stretch} (hcut : Cut cs pieces)
    {v : Value} (h : Expression.evaluate (joined pieces) = .ok v) :
    ∃ level, Level.behind [.fresh] cs = some [level] := by
  rw [Expression.evaluate] at h
  split at h
  · rename_i t hparse
    obtain ⟨lexemes, hlexemes, hparse⟩ := Except.bind_eq_ok.mp hparse
    obtain ⟨ts, hts, htree⟩ := Except.bind_eq_ok.mp hparse
    obtain ⟨level, hlevel⟩ := Expression.levels_of_tree htree
    rw [Expression.signs_of_tokensFrom (fun c hc => Expression.isMark_of_mem hlexemes hc) (by simp)
      hts, signs_of_joined hcut hlexemes] at hlevel
    obtain ⟨ideal, hideal, hlength⟩ := hcut.behind (List.cons_ne_nil _ _) hlevel
    obtain ⟨last, rfl⟩ := List.length_eq_one_iff.mp hlength
    exact ⟨last, hideal⟩
  · cases h

/-- **Levels of an answer.** Behind an answer that has a value, only one level is open. -/
theorem levels_of_evaluate {functions : List String} {answer : String} {v : Value}
    (h : evaluate functions answer = .ok v) (hcomment : Uncommented answer.toList) :
    ∃ level, Level.behind [.fresh] (outside answer.toList) = some [level] := by
  obtain ⟨before, after, -, -, hanswer⟩ := Text.exists_gaps answer.toList
  have htrim : Uncommented (Text.trim answer.toList) :=
    hcomment.infix ⟨before, after, hanswer.symm⟩
  rw [evaluate] at h
  split at h
  · cases h
  · simp only [evaluateTrimmed] at h
    split at h
    · rename_i hname
      -- The name of a function has no quotes and no signs at all.
      have hplain := plain_of_isIdentifier (Bool.and_eq_true_iff.mp hname).1
      have hquote : ∀ c ∈ Text.trim answer.toList, c ≠ '"' ∧ c ≠ '\x27' :=
        fun c hc => (hplain c hc).1
      have hpieces := stretchesFrom_append hquote [] []
      rw [List.append_nil, stretchesFrom] at hpieces
      refine ⟨.fresh, ?_⟩
      have houtside := outside_append hquote []
      rw [List.append_nil] at houtside
      rw [behind_outside_trim hpieces, houtside, Level.behind_append, Level.behind,
        List.filterMap_eq_nil_iff.mpr fun c hc => (hplain c hc).2]
      rfl
    · split at h
      · cases h
      · rename_i code hcode
        -- Any other answer is adapted, and the levels of its tokens are those of its code.
        obtain ⟨pieces, hpieces, rfl⟩ := Option.map_eq_some_iff.mp hcode
        rw [behind_outside_trim hpieces]
        exact levels_of_evaluate_joined (cut_of_stretches hpieces htrim)
          (Except.mapError_eq_ok.mp h)

end Questionnaire.Answer
