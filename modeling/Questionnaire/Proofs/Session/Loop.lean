import Questionnaire.Proofs.Session.Ending
import Questionnaire.Session.Run

namespace Questionnaire

/-!
# The loop of runs

Runs of a target alternate with the question whether it runs again.  Each of them goes as if it
were alone, with the answers and the files that the one before has left.

* `Dialogue.Parallel.run_after` — what has happened beforehand does not matter.
* `Setup.invoke_run_eq`, `Setup.run_ends` — running a target always ends, and takes no answer.
* `Setup.rerun_run` — the question takes at least one.
* `Course` — how the loop goes on, told by runs that are alone.
* `exists_course`, `course_iff` — there is always such a course, and the loop takes it.
-/

variable {α β : Type}

/-! ### What has happened beforehand -/

/-- The session with more that has happened beforehand. -/
def Session.after (past : List Event) (σ : Session) : Session :=
  { σ with events := past ++ σ.events }

namespace Dialogue

open Session (Link)

/-- The same end, with more that has happened beforehand. -/
def after (past : List Event) : EStateM.Result Stop Session α → EStateM.Result Stop Session α
  | .ok a τ => .ok a (τ.after past)
  | .error stop τ => .error stop (τ.after past)

/-- What has happened before something else has happened before both. -/
theorem after_after (past more : List Event) (r : EStateM.Result Stop Session α) :
    after past (after more r) = after (past ++ more) r := by
  cases r <;> simp [after, Session.after]

/-- A part that goes the same way from all sessions that are joined does not look at what has
    happened. -/
theorem Parallel.run_after {x : Dialogue α} (hx : ∀ l, Parallel l Eq Eq x) (past : List Event)
    (σ : Session) : x.run (σ.after past) = after past (x.run σ) := by
  have hjoins : Link.Joins ⟨[], [], past⟩ Eq σ (σ.after past) :=
    ⟨by simp [Session.after], rfl, σ.events, rfl, rfl⟩
  -- The events before a run are the only thing in which the two sessions differ.
  have hafter (τ τ' : Session) (h : Link.Joins ⟨[], [], past⟩ Eq τ τ') : τ' = τ.after past := by
    obtain ⟨answers, files, events⟩ := τ'
    obtain ⟨hanswers, hfiles, since, hevents, hevents'⟩ := h
    dsimp only at hanswers hfiles hevents hevents'
    rw [hanswers, ← hfiles, hevents', Session.after, hevents, List.append_nil, List.nil_append]
  have hsame := hx _ σ _ hjoins
  cases hrun : x.run σ with
  | ok a τ =>
    rw [hrun] at hsame
    obtain ⟨τ', hrun', hτ⟩ := hsame
    rw [hrun', hafter τ τ' hτ, after]
  | error stop τ =>
    rw [hrun] at hsame
    obtain ⟨τ', hrun', hτ⟩ := hsame rfl
    rw [hrun', hafter τ τ' hτ, after]

/-- Both sessions may have their files replaced by the same ones. -/
theorem Parallel.setFiles {l : Link} (files : FileTree) :
    Parallel l Eq Eq (modify fun σ : Session => { σ with files } : Dialogue Unit) := by
  intro σ σ' h
  exact ⟨{ σ' with files }, rfl, h.answers, rfl, h.events⟩

end Dialogue

/-- The question by yes or no. -/
def Rerun.question : Question :=
  .ofParameter Rerun.signature.name
    ⟨"rerun", .bool, some (.bool true), Signature.paramDoc? Rerun.doc "rerun"⟩

namespace Setup

open Dialogue (Accounts Ends Parallel)
open Session (Link)

variable {s : Setup} {l : Link}

/-- Invoking a target looks at nothing but the arguments and the files. -/
theorem invoke_parallel (t : Target) (a : Arguments) : Parallel l Eq Eq (invoke t a) := by
  unfold invoke
  apply Parallel.files
  · rintro files _ rfl
    rfl
  · intro files
    apply (Parallel.setFiles _).bind
    intro _
    split
    · exact .pure _
    · apply (Parallel.note _).bind
      intro _
      exact (Parallel.note _).bind fun _ => .pure _

/-- A run looks at nothing but the answers and the files. -/
theorem run_parallel (t : Target) (overrides : Arguments) :
    Parallel l Eq Eq (s.run t overrides) := by
  apply Parallel.bind
  · exact collect_parallel (ReadsSame.eq _ _ _) (SavesSame.eq _ _) fun _ _ h => h
  · intro c
    exact invoke_parallel t _

/-! ### How many answers are used -/

/-- What the user sees of a run apart from its result. -/
def complaints (t : Target) (outcome : Outcome) : List Event :=
  match outcome.result with
  | .ok _ => []
  | .error message =>
    [.failed t.name message, .reported ⟨"Runtime Exception", message, none⟩]

/-- Running a target takes no answer, and always ends. -/
theorem invoke_run_eq (t : Target) (a : Arguments) (σ : Session) :
    (invoke t a).run σ = .ok (t.invoke a σ.files).1.result.toOption
      ⟨σ.answers, (t.invoke a σ.files).2,
        σ.events ++ complaints t (t.invoke a σ.files).1⟩ := by
  show (match (t.invoke a σ.files).1.result with
    | .ok result => return some result
    | .error message => do
      Dialogue.note (.failed t.name message)
      Dialogue.note (.reported ⟨"Runtime Exception", message, none⟩)
      return none : Dialogue (Option Json)).run ⟨σ.answers, (t.invoke a σ.files).2, σ.events⟩ = _
  unfold complaints
  cases (t.invoke a σ.files).1.result with
  | ok result => simp [Except.toOption]
  | error message =>
    show EStateM.Result.ok none _ = _
    simp [Session.note, Except.toOption]

/-- Complaints hold no questions. -/
theorem questionsIn_complaints (t : Target) (outcome : Outcome) :
    Session.questionsIn (complaints t outcome) = [] := by
  unfold complaints
  split <;> rfl

/-- Invoking a target takes no answers, and never breaks off. -/
theorem invoke_accounts (t : Target) (a : Arguments) {breaks : String → Prop}
    {blame : FileTree → Prop} : Accounts breaks blame (invoke t a) := by
  intro σ
  rw [invoke_run_eq]
  refine ⟨[], rfl, ?_⟩
  rw [Session.questions_append σ rfl, questionsIn_complaints]
  rfl

/-- A run takes one answer for each question, and breaks off only in its questions. -/
theorem run_ends (t : Target) (overrides : Arguments) (σ : Session) :
    Ends s.Breaks (s.SavedBreaks t.signature (s.choices t.signature σ.files)) σ
      ((s.run t overrides).run σ) := by
  have hinvoke (c : Collection) :
      Accounts s.Breaks (fun _ => False) (invoke t (c.arguments.merge overrides)) :=
    invoke_accounts t _
  exact (collect_run_ends t.signature overrides σ).bind hinvoke fun _ _ _ => False.elim

/-- A run uses some of the answers, from the first one on. -/
theorem run_answers {t : Target} {overrides : Arguments} {result : Option Json} {σ τ : Session}
    (h : (s.run t overrides).run σ = .ok result τ) : ∃ used, σ.answers = used ++ τ.answers := by
  have hends := s.run_ends t overrides σ
  rw [h] at hends
  obtain ⟨es, hes⟩ := hends
  exact ⟨_, hes.answers⟩

/-- Without a store, the question by yes or no is all that is asked. -/
theorem collect_rerun (hsaves : s.enableSaves = false) :
    s.collect Rerun.signature Arguments.empty
      = (Collection.start none).add "rerun" <$> s.ask Rerun.question := by
  unfold collect
  rw [hsaves]
  simp [collectFrom, collectOne, Rerun.signature, Rerun.question, Arguments.empty,
    Arguments.contains, Arguments.get?, Parameter.isInternal]

/-- The question takes at least one answer, and leaves the files alone. -/
theorem rerun_run {result : Option Json} {σ τ : Session} (hsaves : s.enableSaves = false)
    (h : (s.run Rerun.target Arguments.empty).run σ = .ok result τ) :
    τ.files = σ.files ∧ τ.answers.length < σ.answers.length := by
  obtain ⟨c, ρ, hcollect, hinvoke⟩ := Dialogue.run_bind_eq_ok.mp h
  rw [show Rerun.target.signature = Rerun.signature from rfl, collect_rerun hsaves] at hcollect
  obtain ⟨given, hask, -⟩ := Dialogue.run_map_eq_ok.mp hcollect
  obtain ⟨answers, events, hputs, hanswers, -⟩ := Dialogue.put_run_eq_ok.mp hask
  rw [invoke_run_eq] at hinvoke
  cases hinvoke
  refine ⟨hputs.files_eq, ?_⟩
  have hsome : 0 < answers.length := by
    cases hputs <;> simp
  show ρ.answers.length < σ.answers.length
  rw [hanswers, List.length_append]
  omega

end Setup

/-! ### The course of the loop -/

/-- A run with a setup of its own, before which nothing has happened. -/
def Target.runAlone (t : Target) (reportTime : Duration) (savesRoot : String) (enableSaves : Bool)
    (overrides : Arguments) (answers : List String) (files : FileTree) :
    EStateM.Result Stop Session (Option Json) :=
  (Setup.run ⟨t.functions, reportTime, enableSaves, savesRoot⟩ t overrides).run ⟨answers, files, []⟩

/-- The session after a result, if there is one, has been shown. -/
def Session.shown (σ : Session) (result : Option Json) : Session :=
  { σ with events := σ.events ++ (result.map .printed).toList }

/-- How the loop goes on from given answers and files.  All its runs are alone.  Whether or not a
    run has a result, the question follows; only a true answer to it leads to another run.  The
    target that puts the question runs once. -/
inductive Course (reportTime : Duration) (savesRoot : String) (enableSaves : Bool) (t : Target)
    (overrides : Arguments) : List String → FileTree → EStateM.Result Stop Session Unit → Prop
  /-- The run itself has stopped. -/
  | stopped {answers : List String} {files : FileTree} {stop : Stop} {σ : Session}
      (hrun : t.runAlone reportTime savesRoot enableSaves overrides answers files = .error stop σ) :
      Course reportTime savesRoot enableSaves t overrides answers files (.error stop σ)
  /-- The target is the one that puts the question, so the question does not follow. -/
  | once {answers : List String} {files : FileTree} {result : Option Json} {σ : Session}
      (hrun : t.runAlone reportTime savesRoot enableSaves overrides answers files = .ok result σ)
      (hself : t.name = Rerun.target.name) :
      Course reportTime savesRoot enableSaves t overrides answers files (.ok () (σ.shown result))
  /-- The run has ended, and the question has no answer left. -/
  | unanswered {answers : List String} {files : FileTree} {result : Option Json} {σ τ : Session}
      {stop : Stop}
      (hrun : t.runAlone reportTime savesRoot enableSaves overrides answers files = .ok result σ)
      (hother : t.name ≠ Rerun.target.name)
      (hquestion : Rerun.target.runAlone reportTime savesRoot false Arguments.empty σ.answers
        σ.files = .error stop τ) :
      Course reportTime savesRoot enableSaves t overrides answers files
        (.error stop (τ.after (σ.shown result).events))
  /-- The answer to the question is not the true one. -/
  | ended {answers : List String} {files : FileTree} {result answer : Option Json}
      {σ τ : Session}
      (hrun : t.runAlone reportTime savesRoot enableSaves overrides answers files = .ok result σ)
      (hother : t.name ≠ Rerun.target.name)
      (hquestion : Rerun.target.runAlone reportTime savesRoot false Arguments.empty σ.answers
        σ.files = .ok answer τ)
      (hno : answer ≠ some (.bool true)) :
      Course reportTime savesRoot enableSaves t overrides answers files
        (.ok () (τ.after (σ.shown result).events))
  /-- The answer is true, and the loop goes on with what is left. -/
  | again {answers : List String} {files : FileTree} {result : Option Json} {σ τ : Session}
      {r : EStateM.Result Stop Session Unit}
      (hrun : t.runAlone reportTime savesRoot enableSaves overrides answers files = .ok result σ)
      (hother : t.name ≠ Rerun.target.name)
      (hquestion : Rerun.target.runAlone reportTime savesRoot false Arguments.empty σ.answers
        σ.files = .ok (some (.bool true)) τ)
      (rest : Course reportTime savesRoot enableSaves t overrides τ.answers τ.files r) :
      Course reportTime savesRoot enableSaves t overrides answers files
        (Dialogue.after ((σ.shown result).events ++ τ.events) r)

variable {time : Duration} {root : String} {saves : Bool} {t : Target} {overrides : Arguments}

/-- A round of the loop leaves fewer answers. -/
theorem fewer_answers {answers : List String} {files : FileTree} {result answer : Option Json}
    {σ τ : Session}
    (hrun : t.runAlone time root saves overrides answers files = .ok result σ)
    (hquestion : Rerun.target.runAlone time root false Arguments.empty σ.answers σ.files
      = .ok answer τ) : τ.answers.length < answers.length := by
  obtain ⟨used, hused⟩ := Setup.run_answers hrun
  obtain ⟨-, hfewer⟩ := Setup.rerun_run rfl hquestion
  dsimp only at hused hfewer
  rw [hused, List.length_append]
  omega

/-- So the loop comes to an end. -/
theorem exists_course (answers : List String) (files : FileTree) :
    ∃ r, Course time root saves t overrides answers files r := by
  -- The induction is on the number of answers, as each round uses up one for the question at its
  -- end.
  induction hlength : answers.length using Nat.strongRecOn generalizing answers files with
  | _ n ih =>
    cases hrun : t.runAlone time root saves overrides answers files with
    | error stop σ => exact ⟨_, .stopped hrun⟩
    | ok result σ =>
      by_cases hname : t.name = Rerun.target.name
      · exact ⟨_, .once hrun hname⟩
      · cases hquestion :
          Rerun.target.runAlone time root false Arguments.empty σ.answers σ.files with
        | error stop τ => exact ⟨_, .unanswered hrun hname hquestion⟩
        | ok answer τ =>
          by_cases hyes : answer = some (.bool true)
          · subst hyes
            obtain ⟨r, hr⟩ := ih _ (hlength ▸ fewer_answers hrun hquestion) τ.answers τ.files rfl
            exact ⟨_, .again hrun hname hquestion hr⟩
          · exact ⟨_, .ended hrun hname hquestion hyes⟩

namespace Setup

open Dialogue (Parallel)

variable {s : Setup}

/-- A run whose past does not matter goes as if it were alone. -/
theorem run_alone (σ : Session) : (s.run t overrides).run σ
    = Dialogue.after σ.events ((s.run t overrides).run ⟨σ.answers, σ.files, []⟩) := by
  have hσ : σ = Session.after σ.events ⟨σ.answers, σ.files, []⟩ := by
    rw [Session.after, List.append_nil]
  conv_lhs => rw [hσ]
  exact Parallel.run_after (fun _ => run_parallel t overrides) _ _

/-! ### Rounds -/

/-- A run that has no result has nothing to show. -/
theorem runAndShow_run_error {stop : Stop} {σ τ : Session}
    (h : (s.run t overrides).run σ = .error stop τ) :
    (s.runAndShow t overrides).run σ = .error stop τ := by
  rw [runAndShow, EStateM.run_bind, h]

/-- A run that has a result shows it. -/
theorem runAndShow_run_ok {result : Option Json} {σ τ : Session}
    (h : (s.run t overrides).run σ = .ok result τ) :
    (s.runAndShow t overrides).run σ = .ok () (τ.shown result) := by
  rw [runAndShow, EStateM.run_bind, h]
  cases result with
  | some result => rfl
  | none => simp [Session.shown]

/-- The question goes as if it were alone. -/
theorem question_run (s : Setup) (σ : Session) :
    ((s.forTarget Rerun.target false).run Rerun.target Arguments.empty).run σ
      = Dialogue.after σ.events
        (Rerun.target.runAlone s.reportTime s.savesRoot false Arguments.empty σ.answers σ.files) :=
  run_alone σ

/-- The question ends as it does alone, with what has happened before. -/
theorem wantsAgain_run_error (s : Setup) (σ : Session) {stop : Stop} {τ : Session}
    (h : Rerun.target.runAlone s.reportTime s.savesRoot false Arguments.empty σ.answers σ.files
      = .error stop τ) : s.wantsAgain.run σ = .error stop (τ.after σ.events) := by
  rw [wantsAgain, EStateM.run_bind, question_run, h]
  rfl

/-- Only a true answer asks for another run. -/
theorem wantsAgain_run_ok (s : Setup) (σ : Session) {answer : Option Json} {τ : Session}
    (h : Rerun.target.runAlone s.reportTime s.savesRoot false Arguments.empty σ.answers σ.files
      = .ok answer τ) :
    ∃ again, s.wantsAgain.run σ = .ok again (τ.after σ.events)
      ∧ (again = true ↔ answer = some (.bool true)) := by
  rw [wantsAgain, EStateM.run_bind, question_run, h]
  dsimp only [Dialogue.after]
  split
  · rename_i again
    exact ⟨again, rfl, by simp⟩
  · rename_i hother
    exact ⟨false, rfl, by simpa using hother true⟩

end Setup

namespace Course

open Dialogue (after)

variable {w : Setup} {answers : List String} {files : FileTree}
  {r : EStateM.Result Stop Session Unit}

/-- The first run of the loop. -/
theorem runAndShow_run_alone {result : Option Json} {σ : Session}
    (hrun : t.runAlone w.reportTime w.savesRoot saves overrides answers files = .ok result σ)
    (past : List Event) :
    ((w.forTarget t saves).runAndShow t overrides).run ⟨answers, files, past⟩
      = .ok () ((σ.shown result).after past) := by
  have hafter : (σ.after past).shown result = (σ.shown result).after past := by
    simp [Session.shown, Session.after]
  rw [← hafter]
  apply Setup.runAndShow_run_ok
  exact (Setup.run_alone _).trans (congrArg (after past) hrun)

/-- With more rounds than answers, the loop goes on as it should, wherever it starts. -/
theorem repeatRounds_run (h : Course w.reportTime w.savesRoot saves t overrides answers files r)
    (hother : t.name ≠ Rerun.target.name) {rounds : Nat} (hrounds : answers.length ≤ rounds)
    (past : List Event) :
    ((w.forTarget t saves).repeatRounds t overrides (rounds + 1)).run ⟨answers, files, past⟩
      = after past r := by
  induction h generalizing rounds past with
  | once hrun hself => exact absurd hself hother
  | stopped hrun =>
    rw [Setup.repeatRounds, EStateM.run_bind, Setup.runAndShow_run_error
      ((Setup.run_alone _).trans (congrArg (after past) hrun))]
    rfl
  | @unanswered answers files result σ τ stop hrun _ hquestion =>
    rw [Setup.repeatRounds, EStateM.run_bind, runAndShow_run_alone hrun]
    dsimp only
    rw [EStateM.run_bind,
      (w.forTarget t saves).wantsAgain_run_error ((σ.shown result).after past) hquestion]
    simp [after, Session.after]
  | @ended answers files result answer σ τ hrun _ hquestion hno =>
    obtain ⟨again, hagain, hyes⟩ := (w.forTarget t saves).wantsAgain_run_ok
      ((σ.shown result).after past) hquestion
    obtain rfl : again = false := by simpa [hno] using hyes
    rw [Setup.repeatRounds, EStateM.run_bind, runAndShow_run_alone hrun]
    dsimp only
    rw [EStateM.run_bind, hagain]
    simp [after, Session.after]
  | @again answers files result σ τ r hrun _ hquestion _ ih =>
    obtain ⟨again, hagain, hyes⟩ := (w.forTarget t saves).wantsAgain_run_ok
      ((σ.shown result).after past) hquestion
    obtain rfl : again = true := hyes.mpr rfl
    -- the question has used up an answer, so the rounds that are left are still enough
    have hleft : τ.answers.length < rounds :=
      Nat.lt_of_lt_of_le (fewer_answers hrun hquestion) hrounds
    obtain ⟨rounds, rfl⟩ := Nat.exists_eq_succ_of_ne_zero (Nat.ne_zero_of_lt hleft)
    rw [Setup.repeatRounds, EStateM.run_bind, runAndShow_run_alone hrun]
    dsimp only
    rw [EStateM.run_bind, hagain]
    show ((w.forTarget t saves).repeatRounds t overrides (rounds + 1)).run
      ⟨τ.answers, τ.files, past ++ (σ.shown result).events ++ τ.events⟩ = _
    rw [ih (Nat.le_of_lt_succ hleft), Dialogue.after_after, List.append_assoc]

/-- The target that puts the question runs once. -/
theorem runAndShow_run (h : Course w.reportTime w.savesRoot saves t overrides answers files r)
    (hself : t.name = Rerun.target.name) :
    ((w.forTarget t saves).runAndShow t overrides).run ⟨answers, files, []⟩ = r := by
  cases h with
  | stopped hrun => exact Setup.runAndShow_run_error hrun
  | once hrun _ => exact Setup.runAndShow_run_ok hrun
  | unanswered _ hother _ => exact absurd hself hother
  | ended _ hother _ _ => exact absurd hself hother
  | again _ hother _ _ => exact absurd hself hother

/-- The loop ends as its course does. -/
theorem repeatRun_run (h : Course w.reportTime w.savesRoot saves t overrides answers files r) :
    ((w.forTarget t saves).repeatRun t overrides).run ⟨answers, files, []⟩ = r := by
  unfold Setup.repeatRun
  split
  · rename_i hname
    exact h.runAndShow_run (by simpa using hname)
  · rename_i hname
    have hother : t.name ≠ Rerun.target.name := by simpa using hname
    show ((w.forTarget t saves).repeatRounds t overrides (answers.length + 1)).run _ = r
    rw [h.repeatRounds_run hother (Nat.le_refl _)]
    cases r <;> rfl

end Course

/-- **The loop.** It comes to an end, and its runs go as if each were alone. -/
theorem course_iff (w : Setup) {answers : List String} {files : FileTree}
    {r : EStateM.Result Stop Session Unit} :
    Course w.reportTime w.savesRoot saves t overrides answers files r
      ↔ ((w.forTarget t saves).repeatRun t overrides).run ⟨answers, files, []⟩ = r := by
  constructor
  · exact Course.repeatRun_run
  · rintro rfl
    obtain ⟨r, hr⟩ : ∃ r, Course w.reportTime w.savesRoot saves t overrides answers files r :=
      exists_course answers files
    rw [hr.repeatRun_run]
    exact hr

end Questionnaire
