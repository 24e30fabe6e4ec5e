import Questionnaire.Proofs.Session.Ending

namespace Questionnaire

/-!
# Asking again

A question is put until an answer is taken.  Which answers are taken, and what is reported of the
others, is told here without the program.

* `Question.Takes` — the answers that are taken, with what they give.
* `Setup.Rejects` — all others, with their reports.
* `Setup.takes_or_rejects`, `Setup.judge_takes`, `Setup.judge_rejects` — answers are judged so.
* `Setup.ask_retries` — a question uses the answers up to the first one that is taken.
-/

open Questionnaire.Text (trimmed)

variable {α : Type}

/-! ### Answers that are taken, and others -/

/-- Only a blank answer has the fault of being blank. -/
theorem Answer.evaluate_eq_blank {functions : List String} {answer : String} :
    evaluate functions answer = .error .blank ↔ trimmed answer = "" := by
  constructor
  · intro h
    rw [evaluate] at h
    split at h
    · rename_i htrim
      rw [trimmed, htrim]
    · -- The evaluation of a full answer has faults of other kinds.
      unfold evaluateTrimmed at h
      dsimp only at h
      split at h
      · cases h
      · split at h
        · cases h
        · obtain ⟨fault, -, hfault⟩ := Except.mapError_eq_error.mp h
          cases fault <;> cases hfault
  · intro h
    rw [← evaluate_trimmed, h]
    rfl

/-- An answer is taken: a blank one for the default, and any other one for its value, if that has
    the declared type.  The default has no answer that would give it. -/
inductive Question.Takes (functions : List String) (q : Question) (answer : String) : Given → Prop
  | kept {v : Value} (hblank : trimmed answer = "") (hdefault : q.default = some v) :
      Takes functions q answer ⟨v, none⟩
  | entered {v : Value} (hvalue : Answer.evaluate functions answer = .ok v)
      (htype : q.type.accepts v = true) : Takes functions q answer ⟨v, some (trimmed answer)⟩

namespace Setup

variable {s : Setup} {q : Question} {answer : String}

/-- An answer is not taken, and there is a report of the reason, which stays visible for the time of
    the session: it is blank and there is no default, or a string in it is left open, or its
    expression fails, or its value has another type. -/
inductive Rejects (s : Setup) (q : Question) (answer : String) : Report → Prop
  | blank (hblank : trimmed answer = "") (hdefault : q.default = none) :
      Rejects s q answer ⟨"Error", "No value was given.", some s.reportTime⟩
  | openLiteral (hopen : Answer.evaluate s.functions answer = .error .openLiteral) :
      Rejects s q answer
        ⟨"Couldn't parse input.", " Exception: Unterminated string literal", some s.reportTime⟩
  | failure {cause : Expression.Failure}
      (hcause : Answer.evaluate s.functions answer = .error (.expression cause)) :
      Rejects s q answer
        ⟨"Couldn't parse input.", " Exception: " ++ cause.message, some s.reportTime⟩
  | misfit {v : Value} (hvalue : Answer.evaluate s.functions answer = .ok v)
      (htype : q.type.accepts v = false) :
      Rejects s q answer ⟨"Error", "Type validation failed: " ++ v.text ++ " is not a valid "
        ++ q.type.text ++ ". Rolling back...", some s.reportTime⟩

/-- What is rejected is not taken. -/
theorem Rejects.not_takes {report : Report} (h : s.Rejects q answer report) (g : Given) :
    ¬ q.Takes s.functions answer g := by
  intro htakes
  cases htakes with
  | kept hblank hdefault =>
    -- A blank answer is rejected for want of a default only.
    have heval : Answer.evaluate s.functions answer = .error .blank :=
      Answer.evaluate_eq_blank.mpr hblank
    cases h with
    | blank _ hdefault' => rw [hdefault] at hdefault'; cases hdefault'
    | openLiteral hopen => rw [heval] at hopen; cases hopen
    | failure hcause => rw [heval] at hcause; cases hcause
    | misfit hvalue _ => rw [heval] at hvalue; cases hvalue
  | entered hvalue htype =>
    cases h with
    | blank hblank _ => exact Answer.trimmed_ne_empty_of_evaluate hvalue hblank
    | openLiteral hopen => rw [hvalue] at hopen; cases hopen
    | failure hcause => rw [hvalue] at hcause; cases hcause
    | misfit hvalue' htype' =>
      obtain rfl := Except.ok.inj (hvalue.symm.trans hvalue')
      rw [htype] at htype'
      cases htype'

/-- An answer is either taken or rejected, unless evaluating it breaks off. -/
theorem takes_or_rejects (q : Question) (hunbroken : ¬ s.Breaks answer) :
    (∃ g, q.Takes s.functions answer g) ∨ ∃ report, s.Rejects q answer report := by
  -- Each way of evaluating an answer is either taken or has its own report.
  by_cases hblank : trimmed answer = ""
  · cases hdefault : q.default with
    | some v => exact Or.inl ⟨_, .kept hblank hdefault⟩
    | none => exact Or.inr ⟨_, .blank hblank hdefault⟩
  · cases heval : Answer.evaluate s.functions answer with
    | ok v =>
      cases htype : q.type.accepts v with
      | true => exact Or.inl ⟨_, .entered heval htype⟩
      | false => exact Or.inr ⟨_, .misfit heval htype⟩
    | error fault =>
      cases fault with
      | blank => exact absurd (Answer.evaluate_eq_blank.mp heval) hblank
      | openLiteral => exact Or.inr ⟨_, .openLiteral heval⟩
      | expression cause => exact Or.inr ⟨_, .failure heval⟩
      | crash => exact absurd heval hunbroken

/-- A blank answer does not break off. -/
theorem not_breaks_of_blank (h : trimmed answer = "") : ¬ s.Breaks answer := by
  intro hbreaks
  rw [Breaks, Answer.evaluate_eq_blank.mpr h] at hbreaks
  cases hbreaks

/-- Evaluating an answer that is taken does not break off. -/
theorem not_breaks_of_takes {g : Given} (h : q.Takes s.functions answer g) : ¬ s.Breaks answer := by
  intro hbreaks
  cases h with
  | kept hblank _ => exact not_breaks_of_blank hblank hbreaks
  | entered hvalue _ =>
    rw [Breaks, hvalue] at hbreaks
    cases hbreaks

/-- Nor does evaluating one that is rejected. -/
theorem Rejects.not_breaks {report : Report} (h : s.Rejects q answer report) :
    ¬ s.Breaks answer := by
  intro hbreaks
  cases h with
  | blank hblank _ => exact not_breaks_of_blank hblank hbreaks
  | openLiteral hopen =>
    rw [Breaks, hopen] at hbreaks
    cases hbreaks
  | failure hcause =>
    rw [Breaks, hcause] at hbreaks
    cases hbreaks
  | misfit hvalue _ =>
    rw [Breaks, hvalue] at hbreaks
    cases hbreaks

/-! ### Judged answers -/

/-- A fault is reported, unless it is that the evaluation has broken off. -/
theorem attempt_of_fault {fault : Answer.Fault}
    (hfault : Answer.evaluate s.functions answer = .error fault) (hcrash : fault ≠ .crash) :
    Answer.attempt s.functions s.reportTime answer = .rejected (fault.report s.reportTime) := by
  rw [Answer.attempt, hfault]
  cases fault with
  | blank => rfl
  | openLiteral => rfl
  | expression cause => rfl
  | crash => exact absurd rfl hcrash

/-- So the answer is refused with the report of its fault, whatever is asked. -/
theorem judge_fault {fault : Answer.Fault}
    (hfault : Answer.evaluate s.functions answer = .error fault) (hblank : fault ≠ .blank)
    (hcrash : fault ≠ .crash) : s.judge q answer = .refused (fault.report s.reportTime) := by
  have hfull : trimmed answer ≠ "" := by
    intro h
    rw [Answer.evaluate_eq_blank.mpr h] at hfault
    exact hblank (Except.error.inj hfault).symm
  rw [← Answer.evaluate_trimmed] at hfault
  simp [judge, read, hfull, attempt_of_fault hfault hcrash, Judgment.bind]

/-- What is taken is accepted. -/
theorem judge_takes {g : Given} (h : q.Takes s.functions answer g) :
    s.judge q answer = .accepted g := by
  cases h with
  | kept hblank hdefault => simp [judge, read, hblank, hdefault, Judgment.bind]
  | entered hvalue htype => exact judge_evaluate hvalue htype

/-- What is rejected is refused with its report. -/
theorem judge_rejects {report : Report} (h : s.Rejects q answer report) :
    s.judge q answer = .refused report := by
  cases h with
  | blank hblank hdefault =>
    simp [judge, read, hblank, hdefault, Judgment.bind, error, Report.error]
  | openLiteral hopen =>
    rw [judge_fault hopen (by simp) (by simp)]
    rfl
  | failure hcause =>
    rw [judge_fault hcause (by simp) (by simp)]
    rfl
  | misfit hvalue htype =>
    rw [judge, read_evaluate q hvalue, Judgment.bind]
    simp [htype, misfit, error, Report.error]
    rfl

end Setup

/-! ### Rounds -/

/-- A question is put, answered, and put again after a report. -/
def Event.round (q : Question) (report : Report) : List Event :=
  [.asked q, .answered, .reported report]

/-- Refused answers take a round each, and leave the rest to the question. -/
theorem Dialogue.putTo_refused {q : Question} {judge : FileTree → String → Judgment α × FileTree}
    {files : FileTree} {wrong : List String} {reports : List Report}
    (hwrong : List.Forall₂ (fun x report => judge files x = (.refused report, files)) wrong reports)
    (before : List Event) (rest : List String) :
    putTo q judge files before (wrong ++ rest)
      = putTo q judge files (before ++ reports.flatMap (Event.round q)) rest := by
  induction hwrong generalizing before with
  | nil => simp
  | cons hfirst _ ih =>
    rw [List.cons_append, putTo, hfirst]
    dsimp only
    rw [ih]
    simp [Event.round]

namespace Setup

variable {s : Setup} {q : Question}

/-- A question is put to the answers that a session has. -/
theorem ask_run (s : Setup) (q : Question) (σ : Session) :
    (s.ask q).run σ = Dialogue.putTo q (fun files answer => (s.judge q answer, files)) σ.files
      σ.events σ.answers := rfl

/-- Answers none of which is taken have a report each. -/
theorem exists_reports {answers : List String} (hunbroken : ∀ x ∈ answers, ¬ s.Breaks x)
    (hwrong : ∀ x ∈ answers, ∀ g, ¬ q.Takes s.functions x g) :
    ∃ reports, List.Forall₂ (s.Rejects q) answers reports := by
  induction answers with
  | nil => exact ⟨[], .nil⟩
  | cons x answers ih =>
    obtain ⟨reports, hreports⟩ := ih (fun y hy => hunbroken y (List.mem_cons_of_mem x hy))
      fun y hy => hwrong y (List.mem_cons_of_mem x hy)
    rcases takes_or_rejects q (hunbroken x List.mem_cons_self) with ⟨g, hg⟩ | ⟨report, hreport⟩
    · exact absurd hg (hwrong x List.mem_cons_self g)
    · exact ⟨report :: reports, .cons hreport hreports⟩

/-- With rejected answers, a question comes to the rest of the answers. -/
theorem ask_run_rejected {wrong : List String} {reports : List Report}
    (hwrong : List.Forall₂ (s.Rejects q) wrong reports) {σ : Session} {rest : List String}
    (hσ : σ.answers = wrong ++ rest) :
    (s.ask q).run σ = (s.ask q).run
      ⟨rest, σ.files, σ.events ++ reports.flatMap (Event.round q)⟩ := by
  have hrefused : List.Forall₂ (fun x report =>
      (s.judge q x, σ.files) = (.refused report, σ.files)) wrong reports :=
    hwrong.imp fun _ _ h => by rw [judge_rejects h]
  rw [ask_run, ask_run, hσ]
  exact Dialogue.putTo_refused hrefused σ.events rest

/-- An answer is rejected with one report only. -/
theorem rejects_rightUnique : Relator.RightUnique (s.Rejects q) := by
  intro answer report report' h h'
  exact Judgment.refused.inj ((judge_rejects h).symm.trans (judge_rejects h'))

/-- An answer that is taken ends the question. -/
theorem ask_run_taken {answer : String} {given : Given} (h : q.Takes s.functions answer given)
    (rest : List String) (files : FileTree) (events : List Event) :
    (s.ask q).run ⟨answer :: rest, files, events⟩
      = .ok given ⟨rest, files, events ++ [.asked q, .answered]⟩ := by
  rw [ask_run, Dialogue.putTo, judge_takes h]

/-- **Asking again.** A question uses the answers up to the first one that is taken, and gives what
    that one gives; if there is none it uses all answers and then lacks one.  It is put once for
    each answer, and each of the others has one report of why it is rejected. -/
theorem ask_retries (s : Setup) (q : Question) {σ : Session}
    (hunbroken : ∀ answer ∈ σ.answers, Answer.evaluate s.functions answer ≠ .error .crash) :
    (∀ wrong answer rest given, σ.answers = wrong ++ answer :: rest →
      (∀ x ∈ wrong, ∀ g, ¬ q.Takes s.functions x g) → q.Takes s.functions answer given →
      ∃ reports, List.Forall₂ (s.Rejects q) wrong reports
        ∧ (s.ask q).run σ = .ok given ⟨rest, σ.files,
          σ.events ++ reports.flatMap (Event.round q) ++ [.asked q, .answered]⟩)
    ∧ ((∀ x ∈ σ.answers, ∀ g, ¬ q.Takes s.functions x g) →
      ∃ reports, List.Forall₂ (s.Rejects q) σ.answers reports
        ∧ (s.ask q).run σ = .error (.unanswered q) ⟨[], σ.files,
          σ.events ++ reports.flatMap (Event.round q) ++ [.asked q]⟩) := by
  constructor
  · intro wrong answer rest given hσ hwrong htaken
    obtain ⟨reports, hreports⟩ := exists_reports (s := s) (q := q)
      (fun x hx => hunbroken x (by rw [hσ]; exact List.mem_append_left _ hx)) hwrong
    refine ⟨reports, hreports, ?_⟩
    rw [ask_run_rejected hreports hσ, ask_run_taken htaken]
  · intro hwrong
    obtain ⟨reports, hreports⟩ := exists_reports hunbroken hwrong
    refine ⟨reports, hreports, ?_⟩
    rw [ask_run_rejected hreports (List.append_nil σ.answers).symm]
    rfl

/-- A blank answer without a default, an open string, a failing expression and a value of another
    type come before the answer that is taken, each with its report, and a last one is left. -/
theorem ask_retries_mixed :
    ∃ q, q = Question.ofParameter "f" ⟨"n", .int, none, none⟩
      ∧ (Setup.ask ⟨[], ⟨2500000000⟩, true, "."⟩ q).run
          ⟨[" ", "'x", "1 +", "'x'", " 4 ", "5"], FileTree.empty, []⟩
        = .ok ⟨.int 4, some "4"⟩ ⟨["5"], FileTree.empty,
          [.asked q, .answered,
            .reported ⟨"Error", "No value was given.", some ⟨2500000000⟩⟩,
            .asked q, .answered,
            .reported ⟨"Couldn't parse input.", " Exception: Unterminated string literal",
              some ⟨2500000000⟩⟩,
            .asked q, .answered,
            .reported ⟨"Couldn't parse input.",
              " Exception: An operator expected 2 arguments, but got 1.", some ⟨2500000000⟩⟩,
            .asked q, .answered,
            .reported ⟨"Error", "Type validation failed: \"x\" is not a valid int. Rolling back...",
              some ⟨2500000000⟩⟩,
            .asked q, .answered]⟩ := by
  obtain ⟨q, hq⟩ : ∃ q, q = Question.ofParameter "f" ⟨"n", .int, none, none⟩ := ⟨_, rfl⟩
  obtain ⟨s, hs⟩ : ∃ s, s = Setup.mk [] ⟨2500000000⟩ true "." := ⟨_, rfl⟩
  have hblank : s.Rejects q " " _ := .blank (by decide) (by rw [hq]; rfl)
  have hopen : s.Rejects q "'x" _ := .openLiteral (by rw [hs]; rfl)
  have hsum : Answer.evaluate s.functions "1 +" = .error (.expression (.operandCount 2 1)) := by
    rw [hs]
    rfl
  have hfailure : s.Rejects q "1 +" _ := .failure hsum
  have hname : Answer.evaluate s.functions "'x'" = .ok (.str "x") := by
    rw [hs]
    rfl
  have hmisfit : s.Rejects q "'x'" _ := .misfit hname (by rw [hq]; rfl)
  have htaken : q.Takes s.functions " 4 " ⟨.int 4, some "4"⟩ :=
    .entered (by rw [hs]; rfl) (by rw [hq]; rfl)
  have hleft : q.Takes s.functions "5" ⟨.int 5, some "5"⟩ :=
    .entered (by rw [hs]; rfl) (by rw [hq]; rfl)
  have hunbroken (answer : String) (hmem : answer ∈ [" ", "'x", "1 +", "'x'", " 4 ", "5"]) :
      ¬ s.Breaks answer := by
    simp only [List.mem_cons, List.not_mem_nil, or_false] at hmem
    rcases hmem with rfl | rfl | rfl | rfl | rfl | rfl
    · exact hblank.not_breaks
    · exact hopen.not_breaks
    · exact hfailure.not_breaks
    · exact hmisfit.not_breaks
    · exact not_breaks_of_takes htaken
    · exact not_breaks_of_takes hleft
  have hwrong (x : String) (hmem : x ∈ [" ", "'x", "1 +", "'x'"]) (g : Given) :
      ¬ q.Takes s.functions x g := by
    simp only [List.mem_cons, List.not_mem_nil, or_false] at hmem
    rcases hmem with rfl | rfl | rfl | rfl
    · exact hblank.not_takes g
    · exact hopen.not_takes g
    · exact hfailure.not_takes g
    · exact hmisfit.not_takes g
  obtain ⟨reports, hreports, hrun⟩ := (ask_retries s q
    (σ := ⟨[" ", "'x", "1 +", "'x'", " 4 ", "5"], FileTree.empty, []⟩) hunbroken).1
      [" ", "'x", "1 +", "'x'"] " 4 " ["5"] _ rfl hwrong htaken
  -- Each of the answers has no other report than the one it was rejected with above.
  have hall := List.Forall₂.cons hblank (.cons hopen (.cons hfailure (.cons hmisfit .nil)))
  obtain rfl := rejects_rightUnique.forall₂ hreports hall
  refine ⟨q, hq, ?_⟩
  rw [← hs, hrun, hs, hq]
  rfl

end Setup

end Questionnaire
