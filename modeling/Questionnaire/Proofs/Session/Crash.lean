import Questionnaire.Proofs.Expression.Crash
import Questionnaire.Proofs.Session.Decline
import Questionnaire.Proofs.Session.Modular
import Questionnaire.Proofs.Session.Retry

namespace Questionnaire

/-!
# What breaks a session off

* `Answer.Cuts` — an answer whose evaluation comes to a cut inside a character.
* `Answer.evaluate_eq_crash` — only these break off.
* `Dialogue.Spends` — a part of a session breaks off at an answer, and not behind one.
* `Setup.collect_crashes` — a run of questions breaks off at such an answer, entered or saved.
-/

open Questionnaire.Text (trimmed)

variable {α β : Type}

/-! ### Answers -/

namespace Answer

/-- The evaluation of an answer comes to a part of a string that cuts a character: the answer names
    no function, and the expression that it means comes to the cut. -/
structure Cuts (functions : List String) (answer : String) : Prop where
  unnamed : ¬ (isIdentifier (Text.trim answer.toList) = true ∧ trimmed answer ∈ functions)
  cut : ∃ code t v, expression? (Text.trim answer.toList) = some code
    ∧ Expression.parse code = .ok t ∧ t.Applies (.call "str::substring") [v]
    ∧ Expression.CutsCharacter v

/-- An answer breaks off where its expression does, if it is no name of a function. -/
theorem evaluateTrimmed_eq_crash {functions : List String} {cs : List Char} :
    evaluateTrimmed functions cs = .error .crash
      ↔ ¬ (isIdentifier cs = true ∧ String.ofList cs ∈ functions)
        ∧ ∃ code, expression? cs = some code ∧ Expression.evaluate code = .error .crash := by
  unfold evaluateTrimmed
  dsimp only
  split
  · rename_i hname
    simp_all
  · rename_i hname
    have hunnamed : ¬ (isIdentifier cs = true ∧ String.ofList cs ∈ functions) := by simpa using hname
    cases hexpression : expression? cs with
    | none => simp
    | some code =>
      -- Of the faults of an expression, only the one becomes a crash of the answer.
      have hfault (fault : Expression.Fault) : Fault.ofExpression fault = .crash
          ↔ fault = .crash := by
        cases fault <;> simp [Fault.ofExpression]
      simp [hunnamed, Except.mapError_eq_error, hfault]

/-- An answer breaks off exactly where its evaluation comes to a cut. -/
theorem evaluate_eq_crash {functions : List String} {answer : String} :
    evaluate functions answer = .error .crash ↔ Cuts functions answer := by
  have hcut : Cuts functions answer
      ↔ evaluateTrimmed functions (Text.trim answer.toList) = .error .crash := by
    simp only [evaluateTrimmed_eq_crash, Expression.evaluate_eq_crash]
    constructor
    · rintro ⟨h, code, t, v, hcode, hcuts⟩
      exact ⟨h, code, hcode, t, v, hcuts⟩
    · rintro ⟨h, code, hcode, t, v, hcuts⟩
      exact ⟨h, code, t, v, hcode, hcuts⟩
  rw [hcut, evaluate]
  split
  · rename_i hblank
    -- A blank answer has a fault of its own.
    rw [hblank]
    constructor <;> intro h <;> cases h
  · rfl

/-- Of an answer that does not break off there is either a value or one report. -/
theorem attempt_eq_crash {functions : List String} {timeout : Duration} {answer : String} :
    attempt functions timeout answer = .crash ↔ Cuts functions answer := by
  rw [← evaluate_eq_crash, attempt]
  split <;> simp_all

end Answer

/-! ### Answers that are used -/

namespace Dialogue

/-- A part of a session uses answers from the front.  None of them breaks off where it has a result
    or stops at a question, and those behind them do not matter. -/
structure Spends (breaks : String → Prop) (x : Dialogue α) (σ : Session) : Prop where
  done : ∀ a τ, x.run σ = .ok a τ → ∃ used, σ.answers = used ++ τ.answers
    ∧ (∀ answer ∈ used, ¬ breaks answer)
    ∧ ∀ more, x.run { σ with answers := used ++ more } = .ok a { τ with answers := more }
  stopped : ∀ q τ, x.run σ = .error (.unanswered q) τ → τ.answers = []
    ∧ ∀ answer ∈ σ.answers, ¬ breaks answer
  crashed : ∀ τ, x.run σ = .error .crashed τ → ∃ used, σ.answers = used ++ τ.answers
    ∧ x.run { σ with answers := used } = .error .crashed { τ with answers := [] }

variable {breaks : String → Prop}

/-- One part after the other spends answers as both do. -/
theorem Spends.bind {x : Dialogue α} {f : α → Dialogue β} (hx : ∀ σ, Spends breaks x σ)
    (hf : ∀ a σ, Spends breaks (f a) σ) (σ : Session) : Spends breaks (x >>= f) σ := by
  -- Either the first part ends well, and what the second one says is said of the answers it leaves,
  -- or it stops, and then the whole has stopped there.
  cases hrun : x.run σ with
  | ok a ρ =>
    obtain ⟨used, hused, hunbroken, hagain⟩ := (hx σ).done a ρ hrun
    have hfirst : (x >>= f).run σ = (f a).run ρ := by rw [EStateM.run_bind, hrun]
    have hmore (more : List String) : (x >>= f).run { σ with answers := used ++ more }
        = (f a).run { ρ with answers := more } := by rw [EStateM.run_bind, hagain]
    refine ⟨?_, ?_, ?_⟩
    · intro b τ h
      obtain ⟨used', hused', hunbroken', hagain'⟩ := (hf a ρ).done b τ (hfirst ▸ h)
      refine ⟨used ++ used', by rw [hused, hused', List.append_assoc], ?_, fun more => ?_⟩
      · exact fun answer hmem => (List.mem_append.mp hmem).elim (hunbroken _) (hunbroken' _)
      · rw [List.append_assoc, hmore]
        exact hagain' more
    · intro q τ h
      obtain ⟨hnone, hunbroken'⟩ := (hf a ρ).stopped q τ (hfirst ▸ h)
      refine ⟨hnone, fun answer hmem => ?_⟩
      rw [hused] at hmem
      exact (List.mem_append.mp hmem).elim (hunbroken _) (hunbroken' _)
    · intro τ h
      obtain ⟨used', hused', hcrashed⟩ := (hf a ρ).crashed τ (hfirst ▸ h)
      exact ⟨used ++ used', by rw [hused, hused', List.append_assoc], by rw [hmore]; exact hcrashed⟩
  | error stop ρ =>
    have hfirst : (x >>= f).run σ = .error stop ρ := by rw [EStateM.run_bind, hrun]
    refine ⟨?_, ?_, ?_⟩
    · intro b τ h
      rw [hfirst] at h
      cases h
    · intro q τ h
      rw [hfirst] at h
      cases h
      exact (hx σ).stopped q ρ hrun
    · intro τ h
      rw [hfirst] at h
      cases h
      obtain ⟨used, hused, hcrashed⟩ := (hx σ).crashed ρ hrun
      exact ⟨used, hused, by rw [EStateM.run_bind, hcrashed]⟩

/-- A part that has a result whatever the answers are, and leaves them. -/
theorem Spends.of_ok {x : Dialogue α} {a : α} {σ τ : Session}
    (h : ∀ more, x.run { σ with answers := more } = .ok a { τ with answers := more }) :
    Spends breaks x σ := by
  have hrun : x.run σ = .ok a { τ with answers := σ.answers } := h σ.answers
  refine ⟨?_, ?_, ?_⟩
  · intro b τ' h'
    rw [hrun] at h'
    cases h'
    exact ⟨[], rfl, nofun, h⟩
  · intro q τ' h'
    rw [hrun] at h'
    cases h'
  · intro τ' h'
    rw [hrun] at h'
    cases h'

/-- Spending can be told part by part. -/
theorem spends_modular : IsModular fun _ x => ∀ σ, Spends breaks x σ where
  pure _ _ := .of_ok fun _ => rfl
  bind := Spends.bind
  files _ := .of_ok fun _ => rfl
  crash σ := ⟨nofun, nofun, fun τ h => by cases h; exact ⟨[], rfl, rfl⟩⟩
  reported report σ := .of_ok (τ := σ.note (.reported report)) fun _ => rfl

/-- A part that uses one answer and then does the same again. -/
theorem Spends.step {x : Dialogue α} {answer : String} {rest : List String}
    {files files' : FileTree} {events events' : List Event} (hunbroken : ¬ breaks answer)
    (hstep : ∀ more, x.run ⟨answer :: more, files, events⟩ = x.run ⟨more, files', events'⟩)
    (h : Spends breaks x ⟨rest, files', events'⟩) :
    Spends breaks x ⟨answer :: rest, files, events⟩ := by
  have hfirst := hstep rest
  refine ⟨?_, ?_, ?_⟩
  · intro a τ hrun
    obtain ⟨used, hused, hunbroken', hagain⟩ := h.done a τ (hfirst ▸ hrun)
    refine ⟨answer :: used, congrArg (answer :: ·) hused, ?_, fun more => ?_⟩
    · exact List.forall_mem_cons.mpr ⟨hunbroken, hunbroken'⟩
    · exact (hstep (used ++ more)).trans (hagain more)
  · intro q τ hrun
    obtain ⟨hnone, hunbroken'⟩ := h.stopped q τ (hfirst ▸ hrun)
    exact ⟨hnone, List.forall_mem_cons.mpr ⟨hunbroken, hunbroken'⟩⟩
  · intro τ hrun
    obtain ⟨used, hused, hcrashed⟩ := h.crashed τ (hfirst ▸ hrun)
    exact ⟨answer :: used, congrArg (answer :: ·) hused, (hstep used).trans hcrashed⟩

/-- A question breaks off at the first answer that makes it. -/
theorem Spends.put {q : Question} {judge : FileTree → String → Judgment α × FileTree}
    (h : ∀ files answer, breaks answer → (judge files answer).1 = .crashed) (σ : Session) :
    Spends breaks (put q judge) σ := by
  -- The induction is on the answers; what one of them does to the files and the events is passed
  -- on.
  obtain ⟨answers, files, events⟩ := σ
  induction answers generalizing files events with
  | nil =>
    refine ⟨fun b τ hrun => ?_, fun q' τ hrun => ?_, fun τ hrun => ?_⟩
    all_goals cases hrun
    exact ⟨rfl, fun _ hmem => absurd hmem List.not_mem_nil⟩
  | cons answer rest ih =>
    have hstep (more : List String) :
        (Dialogue.put q judge).run ⟨answer :: more, files, events⟩
          = putTo q judge files events (answer :: more) := rfl
    cases hj : judge files answer with
    | mk j files' =>
      have hcrashed (hbreaks : breaks answer) : j = .crashed := by
        rw [← h files answer hbreaks, hj]
      simp only [putTo, hj] at hstep
      -- An answer that breaks is crashed by the judge, so one that was accepted or refused breaks
      -- nothing.
      cases j with
      | accepted a =>
        have hunbroken : ¬ breaks answer := fun hbreaks => by cases hcrashed hbreaks
        refine ⟨fun b τ hrun => ?_, fun q' τ hrun => ?_, fun τ hrun => ?_⟩
        all_goals
          rw [hstep] at hrun
          cases hrun
        exact ⟨[answer], rfl, List.forall_mem_singleton.mpr hunbroken, hstep⟩
      | refused report =>
        have hunbroken : ¬ breaks answer := fun hbreaks => by cases hcrashed hbreaks
        exact .step hunbroken hstep (ih _ _)
      | crashed =>
        refine ⟨fun b τ hrun => ?_, fun q' τ hrun => ?_, fun τ hrun => ?_⟩
        all_goals
          rw [hstep] at hrun
          cases hrun
        exact ⟨[answer], rfl, hstep []⟩

end Dialogue

/-! ### Runs of questions -/

namespace Setup

open Dialogue (Spends)

variable {s : Setup}

/-- An answer that breaks off does so wherever it is read. -/
theorem read_breaks (q : Question) {answer : String} (h : s.Breaks answer) :
    s.read q answer = .crashed := by
  have hfull : trimmed answer ≠ "" := fun hblank => not_breaks_of_blank hblank h
  have hattempt : Answer.attempt s.functions s.reportTime (trimmed answer) = .crash := by
    rw [Answer.attempt, Answer.evaluate_trimmed, h]
  simp [read, hfull, hattempt]

/-- An answer that breaks off is not judged to the end. -/
theorem judge_breaks (q : Question) {answer : String} (h : s.Breaks answer) :
    s.judge q answer = .crashed := by
  rw [judge, read_breaks q h, Judgment.bind]

/-- In an answer that breaks off no name is read. -/
theorem readName_breaks (q : Question) {answer : String} (h : s.Breaks answer) :
    s.readName q answer = .crashed := by
  rw [readName, read_breaks q h, Judgment.bind]

/-- A question that is given such an answer ends the session without a report. -/
theorem ask_run_broken (q : Question) {answer : String} (h : s.Breaks answer) (rest : List String)
    (files : FileTree) (events : List Event) :
    (s.ask q).run ⟨answer :: rest, files, events⟩
      = .error .crashed ⟨rest, files, events ++ [.asked q, .answered]⟩ := by
  rw [ask_run, Dialogue.putTo, judge_breaks q h]

/-- A question spends its answers up to one that breaks off. -/
theorem ask_spends (q : Question) (σ : Session) : Spends s.Breaks (s.ask q) σ := by
  apply Spends.put
  intro files answer h
  dsimp only
  exact judge_breaks q h

/-- A run of questions uses answers up to the first one that breaks off. -/
theorem collect_spends (signature : Signature) (overrides : Arguments) (σ : Session) :
    Spends s.Breaks (s.collect signature overrides) σ := by
  -- Only the four kinds of questions have to be looked at; the rest is the modular shape of
  -- `collect`.
  refine collect_modular (P := fun _ x => ∀ σ, Spends s.Breaks x σ) Dialogue.spends_modular ?_ σ
  constructor
  case session => exact fun q _ => ask_spends q
  case parameter => exact fun p _ _ _ => ask_spends _
  case savedName =>
    intro names q _
    apply Spends.put
    intro files answer h
    dsimp only
    rw [judgeSavedName, readName_breaks q h, Judgment.bind]
  case newName =>
    intro saved q _
    apply Spends.put
    intro files answer h
    rw [judgeNewName, readName_breaks q h]

/-- A configuration under one of these names holds an answer that comes to a cut. -/
def SavedCuts (s : Setup) (signature : Signature) (names : List String) (files : FileTree) : Prop :=
  ∃ name ∈ names, ∃ saved, (s.store signature).restore files name = .ok saved
    ∧ ∃ key answer, (key, answer) ∈ saved.values ∧ Answer.Cuts s.functions answer

/-- **Breaking off.** An answer has a value or one report, unless its evaluation comes to a part of
    a string that cuts a character.  A run of questions breaks off only where it has used such an
    answer, or where one is saved in a configuration that can be restored; if it has a result or
    lacks an answer, then it has used no such answer.

    This is exact for a program built without overflow checks, in which whole numbers wrap: with the
    checks on, an operation whose result does not fit would break off as well. -/
theorem collect_crashes (s : Setup) :
    (∀ answer, Answer.attempt s.functions s.reportTime answer = .crash
      ↔ Answer.Cuts s.functions answer)
    ∧ ∀ signature overrides σ, ∃ used,
      σ.answers = used ++ (Dialogue.final ((s.collect signature overrides).run σ)).answers
      ∧ match (s.collect signature overrides).run σ with
        | .error .crashed _ => (∃ answer ∈ used, Answer.Cuts s.functions answer)
          ∨ s.SavedCuts signature ((s.store signature).list σ.files) σ.files
        | _ => ∀ answer ∈ used, ¬ Answer.Cuts s.functions answer := by
  refine ⟨fun answer => Answer.attempt_eq_crash, fun signature overrides σ => ?_⟩
  have hspends := s.collect_spends signature overrides σ
  have hcuts (answer : String) : s.Breaks answer ↔ Answer.Cuts s.functions answer :=
    Answer.evaluate_eq_crash
  cases hrun : (s.collect signature overrides).run σ with
  | ok c τ =>
    obtain ⟨used, hused, hunbroken, -⟩ := hspends.done c τ hrun
    exact ⟨used, hused, fun answer hmem => (hcuts answer).not.mp (hunbroken answer hmem)⟩
  | error stop τ =>
    cases stop with
    | unanswered q =>
      obtain ⟨hnone, hunbroken⟩ := hspends.stopped q τ hrun
      refine ⟨σ.answers, ?_, fun answer hmem => (hcuts answer).not.mp (hunbroken answer hmem)⟩
      rw [Dialogue.final, hnone, List.append_nil]
    | crashed =>
      obtain ⟨used, hused, hcrashed⟩ := hspends.crashed τ hrun
      refine ⟨used, hused, ?_⟩
      -- With the used answers alone it breaks off as well, so one of them is to blame.
      have hends := s.collect_run_ends signature overrides { σ with answers := used }
      rw [hcrashed] at hends
      rcases hends with hblamed | hentered
      · obtain ⟨name, hname, saved, hsaved, key, answer, hmem, hbreaks⟩ := hblamed.of_choices
        exact Or.inr ⟨name, hname, saved, hsaved, key, answer, hmem, (hcuts answer).mp hbreaks⟩
      · obtain ⟨answer, hmem, hbreaks⟩ := hentered
        exact Or.inl ⟨answer, hmem, (hcuts answer).mp hbreaks⟩

/-- The first question of a run breaks it off with an answer that cuts a character apart. -/
theorem collect_breaks_entered :
    ∃ signature τ, Signature.build "f" [.param "n" "int" none] = .ok signature
      ∧ (Setup.collect ⟨[], ⟨0⟩, false, "."⟩ signature Arguments.empty).run
          ⟨["str::substring(\"é\", 1)", "5"], FileTree.empty, []⟩ = .error .crashed τ
      ∧ τ.answers = ["5"] ∧ τ.reports = [] := by
  -- The answer is kept behind an equation, since evaluating its text again in each step is slow.
  obtain ⟨answer, hanswer⟩ : ∃ answer, answer = "str::substring(\"é\", 1)" := ⟨_, rfl⟩
  have hbreaks : Setup.Breaks ⟨[], ⟨0⟩, false, "."⟩ answer := by
    rw [hanswer]
    exact evaluate_cut
  have hcollect : Setup.collect ⟨[], ⟨0⟩, false, "."⟩ ⟨"f", none, [⟨"n", .int, none, none⟩]⟩
      Arguments.empty = (Collection.start none).add "n"
        <$> Setup.ask ⟨[], ⟨0⟩, false, "."⟩ (.ofParameter "f" ⟨"n", .int, none, none⟩) := by
    simp [collect, collectFrom, collectOne, Arguments.empty, Arguments.contains, Arguments.get?,
      Parameter.isInternal]
  have hrun : (Setup.collect ⟨[], ⟨0⟩, false, "."⟩ ⟨"f", none, [⟨"n", .int, none, none⟩]⟩
      Arguments.empty).run ⟨[answer, "5"], FileTree.empty, []⟩
        = .error .crashed ⟨["5"], FileTree.empty,
          [.asked (.ofParameter "f" ⟨"n", .int, none, none⟩), .answered]⟩ := by
    rw [hcollect, map_eq_pure_bind, EStateM.run_bind, ask_run_broken _ hbreaks]
    rfl
  exact ⟨_, _, rfl, hanswer ▸ hrun, rfl, rfl⟩

end Setup

end Questionnaire
