import Questionnaire.Proofs.Session.Parallel
import Questionnaire.Proofs.Session.Phases

namespace Questionnaire

/-!
# Where a run of questions waits

A run of questions that lacks an answer stands at a question.  Once there are further answers it
goes on from there, and nothing before it is done again.

* `Dialogue.Point` — a question with what becomes of its answers.
* `Dialogue.Waits` — the points at which a part of a session may stand.
* `Setup.Stands` — the points of a run of questions; `Setup.collect_waits` says that it has no
  others.
-/

variable {α β : Type}

namespace Dialogue

/-! ### Points -/

/-- A question that waits for an answer: how answers are judged, and what comes after one that is
    accepted. -/
structure Point (β : Type) where
  {α : Type}
  question : Question
  judge : FileTree → String → Judgment α × FileTree
  after : α → Dialogue β

namespace Point

/-- What is left to do from the question on. -/
def rest (p : Point β) : Dialogue β := put p.question p.judge >>= p.after

/-- The point as one of a larger part, which goes on where the smaller one ends. -/
def bind (p : Point α) (f : α → Dialogue β) : Point β := ⟨p.question, p.judge, (p.after · >>= f)⟩

/-- What is left to do in a larger part is what is left in the smaller one, and then the rest. -/
theorem rest_bind (p : Point α) (f : α → Dialogue β) : (p.bind f).rest = p.rest >>= f :=
  (bind_assoc _ _ _).symm

/-- Without an answer, it stays at the question. -/
theorem rest_unanswered (p : Point β) (files : FileTree) (past : List Event) :
    p.rest.run ⟨[], files, past⟩
      = .error (.unanswered p.question) ⟨[], files, past ++ [.asked p.question]⟩ := rfl

/-- An accepted answer leads on. -/
theorem rest_accepted {p : Point β} {files files' : FileTree} {answer : String} {a : p.α}
    (h : p.judge files answer = (.accepted a, files')) (more : List String) (past : List Event) :
    p.rest.run ⟨answer :: more, files, past⟩
      = (p.after a).run ⟨more, files', past ++ [.asked p.question, .answered]⟩ := by
  have hput : (put p.question p.judge).run ⟨answer :: more, files, past⟩
      = .ok a ⟨more, files', past ++ [.asked p.question, .answered]⟩ := by
    show putTo _ _ _ _ (answer :: more) = _
    rw [putTo, h]
  rw [rest, EStateM.run_bind, hput]

/-- A refused answer leads back to the question. -/
theorem rest_refused {p : Point β} {files files' : FileTree} {answer : String} {report : Report}
    (h : p.judge files answer = (.refused report, files')) (more : List String)
    (past : List Event) :
    p.rest.run ⟨answer :: more, files, past⟩ = p.rest.run
      ⟨more, files', past ++ [.asked p.question, .answered, .reported report]⟩ := by
  have hput : (put p.question p.judge).run ⟨answer :: more, files, past⟩
      = (put p.question p.judge).run
        ⟨more, files', past ++ [.asked p.question, .answered, .reported report]⟩ := by
    show putTo _ _ _ _ (answer :: more) = putTo _ _ _ _ more
    rw [putTo, h]
    simp
  rw [rest, EStateM.run_bind, EStateM.run_bind, hput]

/-- As long as it changes no files, it does so every time. -/
theorem rest_refused_again {p : Point β} {files : FileTree} {answer : String} {report : Report}
    (h : p.judge files answer = (.refused report, files)) (n : Nat) (past : List Event) :
    p.rest.run ⟨List.replicate n answer, files, past⟩
      = .error (.unanswered p.question) ⟨[], files, past ++ [.asked p.question]
        ++ (List.replicate n [.answered, .reported report, .asked p.question]).flatten⟩ := by
  induction n generalizing past with
  | zero => exact (p.rest_unanswered files past).trans (by simp)
  | succ n ih =>
    rw [List.replicate_succ, rest_refused h, ih]
    simp [List.replicate_succ]

end Point

/-! ### Waiting -/

/-- From one session, a part lacks an answer in another one, and is then at a point: with further
    answers, it goes on from there. -/
structure Point.Reached (p : Point β) (x : Dialogue β) (σ τ : Session) : Prop where
  answers : τ.answers = []
  goesOn : ∃ past, τ.events = past ++ [.asked p.question]
    ∧ ∀ more, x.run { σ with answers := σ.answers ++ more } = p.rest.run ⟨more, τ.files, past⟩

/-- Where a part of a session lacks an answer, it is at a point of this kind, which may depend on
    the files. -/
def Waits (P : FileTree → Point β → Prop) (x : Dialogue β) (σ : Session) : Prop :=
  ∀ q τ, x.run σ = .error (.unanswered q) τ →
    ∃ p : Point β, P τ.files p ∧ p.question = q ∧ p.Reached x σ τ

variable {P : FileTree → Point α → Prop} {Q : FileTree → Point β → Prop}

/-- Points of one kind may also be of another. -/
theorem Waits.weaken {P' : FileTree → Point α → Prop} {x : Dialogue α} {σ : Session}
    (hx : Waits P x σ) (h : ∀ t p, P t p → P' t p) : Waits P' x σ := by
  intro q τ hrun
  obtain ⟨p, hp, hq, hreached⟩ := hx q τ hrun
  exact ⟨p, h _ _ hp, hq, hreached⟩

/-- Two parts that do the same with the same files wait at the same points. -/
theorem Waits.congr {x y : Dialogue α} {σ : Session} (hy : Waits P y σ)
    (h : ∀ answers, x.run { σ with answers } = y.run { σ with answers }) : Waits P x σ := by
  intro q τ hrun
  obtain ⟨p, hp, hq, hanswers, past, hevents, hmore⟩ := hy q τ ((h σ.answers).symm.trans hrun)
  exact ⟨p, hp, hq, hanswers, past, hevents, fun more => (h _).trans (hmore more)⟩

/-- A part that has a result waits nowhere. -/
theorem Waits.of_ok {x : Dialogue α} {a : α} {σ τ : Session} (h : x.run σ = .ok a τ) :
    Waits P x σ := by
  intro q ρ hrun
  rw [h] at hrun
  cases hrun

/-- Where nothing is done, nothing waits. -/
theorem Waits.pure (a : α) (σ : Session) : Waits P (pure a) σ := .of_ok rfl

/-- A second part waits where the first one does, or else at its own points. -/
theorem Waits.bind {x : Dialogue α} {f : α → Dialogue β} {σ : Session} (hx : Waits P x σ)
    (hsame : ∀ l, Parallel l Eq Eq x) (hfirst : ∀ t p, P t p → Q t (p.bind f))
    (hf : ∀ a ρ, x.run σ = .ok a ρ → Waits Q (f a) ρ) : Waits Q (x >>= f) σ := by
  intro q τ hrun
  rw [EStateM.run_bind] at hrun
  -- A run waits either in the second part, after the first has ended, or in the first, which then
  -- has the second still before it.
  cases hxrun : x.run σ with
  | ok a ρ =>
    rw [hxrun] at hrun
    obtain ⟨p, hp, hq, hanswers, past, hevents, hmore⟩ := hf a ρ hxrun q τ hrun
    refine ⟨p, hp, hq, hanswers, past, hevents, fun more => ?_⟩
    rw [EStateM.run_bind, Parallel.unread hsame hxrun]
    exact hmore more
  | error stop ρ =>
    rw [hxrun] at hrun
    cases hrun
    obtain ⟨p, hp, hq, hanswers, past, hevents, hmore⟩ := hx q τ hxrun
    refine ⟨p.bind f, hfirst _ _ hp, hq, hanswers, past, hevents, fun more => ?_⟩
    rw [EStateM.run_bind, hmore, Point.rest_bind, EStateM.run_bind]

/-- A question waits at itself, with the files as they are if judging leaves them alone. -/
theorem Waits.put (q : Question) (judge : FileTree → String → Judgment α × FileTree)
    (σ : Session) : Waits (fun t p => p = ⟨q, judge, Pure.pure⟩
      ∧ ((∀ files answer, (judge files answer).2 = files) → t = σ.files))
      (Dialogue.put q judge) σ := by
  have hrest : (⟨q, judge, Pure.pure⟩ : Point α).rest = Dialogue.put q judge := bind_pure _
  obtain ⟨answers, files, events⟩ := σ
  intro q' τ hrun
  induction answers generalizing files events with
  | nil =>
    cases hrun
    exact ⟨_, ⟨rfl, fun _ => rfl⟩, rfl, rfl, events, rfl, fun more => by rw [hrest]; rfl⟩
  | cons answer rest ih =>
    have hstep (more : List String) : (Dialogue.put q judge).run ⟨answer :: more, files, events⟩
        = putTo q judge files events (answer :: more) := rfl
    cases hj : judge files answer with
    | mk j files' =>
      simp only [putTo, hj] at hstep
      rw [hstep] at hrun
      cases j with
      | accepted a => cases hrun
      | crashed => cases hrun
      | refused report =>
        -- The refused answer is one step to a session with fewer answers.
        obtain ⟨p, ⟨hp, hkeeps⟩, hq, hanswers, past, hevents, hmore⟩ := ih _ _ hrun
        refine ⟨p, ⟨hp, fun hjudge => (hkeeps hjudge).trans ?_⟩, hq, hanswers, past, hevents,
          fun more => (hstep (rest ++ more)).trans (hmore more)⟩
        have hfiles := hjudge files answer
        rwa [hj] at hfiles

/-- Two sessions with the same files are given the same judgments. -/
theorem Parallel.put_eq (q : Question) (judge : FileTree → String → Judgment α × FileTree)
    (l : Session.Link) : Parallel l Eq Eq (Dialogue.put q judge) := by
  apply Parallel.put
  rintro t _ answer rfl
  exact ⟨rfl, rfl⟩

end Dialogue

namespace Setup

open Dialogue (Point Waits Parallel)

variable {s : Setup} {signature : Signature} {overrides : Arguments}

/-! ### The points of a run of questions -/

/-- The question under which name answers are to be saved.  It suggests the name from which they
    have been restored, or else the name of the function. -/
def newNameQuestion (signature : Signature) (c : Collection) : Question :=
  .newName signature.name (c.restoredFrom.getD signature.name)

/-- Choosing a name for the answers, and saving them under it. -/
def chooseNew (s : Setup) (signature : Signature) (c : Collection) : Dialogue String :=
  Dialogue.put (newNameQuestion signature c)
    (s.judgeNewName (s.store signature) ⟨c.tokens⟩ (newNameQuestion signature c))

/-- What comes after the questions for parameters. -/
def saving (s : Setup) (signature : Signature) (c : Collection) : Dialogue Collection := do
  if s.enableSaves then return { c with savedTo := ← s.save signature c } else return c

/-- The point at a question that is put until an answer has the declared type. -/
def asking (s : Setup) (q : Question) (after : Given → Dialogue β) : Point β :=
  ⟨q, fun files answer => (s.judge q answer, files), after⟩

/-- The point at the choice of a configuration to be restored. -/
def choosing (s : Setup) (signature : Signature) (files : FileTree) (after : String → Dialogue β) :
    Point β :=
  ⟨s.savedNameQuestion signature files, fun current answer =>
    (s.judgeSavedName (s.store signature) ((s.store signature).list files)
      (s.savedNameQuestion signature files) current answer, current), after⟩

/-- The point at the choice of a name for the answers. -/
def naming (s : Setup) (signature : Signature) (c : Collection) (after : String → Dialogue β) :
    Point β :=
  ⟨newNameQuestion signature c,
    s.judgeNewName (s.store signature) ⟨c.tokens⟩ (newNameQuestion signature c), after⟩

/-- An accepted answer to a question for a value leads on. -/
theorem asking_accepted {q : Question} {answer : String} {given : Given}
    (h : s.judge q answer = .accepted given) (after : Given → Dialogue β) (more : List String)
    (files : FileTree) (past : List Event) :
    (s.asking q after).rest.run ⟨answer :: more, files, past⟩
      = (after given).run ⟨more, files, past ++ [.asked q, .answered]⟩ :=
  have hjudge : (s.asking q after).judge files answer = (.accepted given, files) :=
    congrArg (·, files) h
  Point.rest_accepted hjudge more past

/-- A question for a value stays one in a larger part. -/
@[simp] theorem asking_bind (q : Question) (after : Given → Dialogue α) (f : α → Dialogue β) :
    (s.asking q after).bind f = s.asking q (after · >>= f) := rfl

/-- The choice of a configuration stays one in a larger part. -/
@[simp] theorem choosing_bind (files : FileTree) (after : String → Dialogue α)
    (f : α → Dialogue β) :
    (s.choosing signature files after).bind f = s.choosing signature files (after · >>= f) := rfl

/-- The choice of a name stays one in a larger part. -/
@[simp] theorem naming_bind (c : Collection) (after : String → Dialogue α) (f : α → Dialogue β) :
    (s.naming signature c after).bind f = s.naming signature c (after · >>= f) := by
  simp only [naming, Point.bind]

/-- The points of a run of questions. -/
inductive Stands (s : Setup) (signature : Signature) (overrides : Arguments) (files : FileTree) :
    Point Collection → Prop
  /-- Whether to restore.  The loading and all other questions come after it. -/
  | restoring : Stands s signature overrides files (s.asking (.restore signature.name) fun given =>
      (if given.value.asBool?.getD false then
        s.chooseSaved signature files >>= s.tryLoad signature overrides
      else pure ([], none)) >>= s.collectRest signature overrides)
  /-- Under which name to restore. -/
  | choosing (hlist : (s.store signature).list files ≠ []) :
      Stands s signature overrides files (s.choosing signature files fun name =>
        s.tryLoad signature overrides name >>= s.collectRest signature overrides)
  /-- The value of a parameter.  The later ones come after it, and then the saving. -/
  | parameter {earlier later : List Parameter} {p : Parameter}
      (hparams : signature.params = earlier ++ p :: later) (restored : List (String × Given))
      (c : Collection) :
      Stands s signature overrides files (s.asking (.ofParameter signature.name p) fun given =>
        s.collectFrom signature.name overrides restored later (c.add p.name given)
          >>= s.saving signature)
  /-- Whether to save.  A name that has been restored is suggested, and is a valid one. -/
  | saving (c : Collection)
      (hrestored : ∀ name, c.restoredFrom = some name → Filename.check (.str name) = .ok name) :
      Stands s signature overrides files (s.asking (.save signature.name) fun given =>
        (if given.value.asBool?.getD false then some <$> s.chooseNew signature c else pure none)
          >>= fun savedTo => pure { c with savedTo })
  /-- Under which name to save. -/
  | naming (c : Collection)
      (hrestored : ∀ name, c.restoredFrom = some name → Filename.check (.str name) = .ok name) :
      Stands s signature overrides files
        (s.naming signature c fun path => pure { c with savedTo := some path })

/-- A question waits at itself, with the files as they were. -/
theorem ask_waits (q : Question) (σ : Session) :
    Waits (fun t p => p = s.asking q pure ∧ t = σ.files) (s.ask q) σ := by
  apply (Waits.put _ _ σ).weaken
  rintro t p ⟨rfl, hkeeps⟩
  exact ⟨rfl, hkeeps fun _ _ => rfl⟩

/-- A decision waits at its question. -/
theorem confirm_waits (q : Question) (σ : Session) :
    Waits (fun t p => p = s.asking q (fun given => pure (given.value.asBool?.getD false))
      ∧ t = σ.files) (s.confirm q) σ := by
  apply (ask_waits q σ).bind (fun _ => ask_parallel q)
  · rintro t p ⟨rfl, rfl⟩
    exact ⟨rfl, rfl⟩
  · exact fun _ _ _ => .pure _ _

/-- The choice of a configuration waits at its question. -/
theorem chooseSaved_waits (signature : Signature) (σ : Session) :
    Waits (fun t p => p = s.choosing signature σ.files pure ∧ t = σ.files)
      (s.chooseSaved signature σ.files) σ := by
  apply (Waits.put _ _ σ).weaken
  rintro t p ⟨rfl, hkeeps⟩
  exact ⟨rfl, hkeeps fun _ _ => rfl⟩

/-- Loading asks for nothing, so it waits nowhere. -/
theorem tryLoad_waits {P : FileTree → Point (List (String × Given) × Option String) → Prop}
    (name : String) (σ : Session) : Waits P (s.tryLoad signature overrides name) σ := by
  cases hload : s.load signature overrides (s.store signature) σ.files name with
  | ok restored => exact .of_ok (tryLoad_run_ok hload)
  | error fault =>
    cases hcrash : fault.isCrash with
    | false => exact .of_ok (tryLoad_run_failed hload hcrash)
    | true =>
      intro q τ hrun
      rw [tryLoad_run_crashed hload hcrash] at hrun
      cases hrun

/-- Restoring waits at the decision or at the choice of a name. -/
theorem restore_waits (σ : Session) :
    Waits (fun t p => Stands s signature overrides t (p.bind (s.collectRest signature overrides)))
      (s.restore signature overrides) σ := by
  have hrestore (answers : List String) :
      (s.restore signature overrides).run { σ with answers } = EStateM.run
        (if (s.store signature).list σ.files = [] then pure ([], none)
        else s.confirm (.restore signature.name) >>= fun yes =>
          if yes then s.chooseSaved signature σ.files >>= s.tryLoad signature overrides
          else pure ([], none)) { σ with answers } :=
    restore_run_eq s signature overrides { σ with answers }
  -- What the list holds decides at once whether anything is asked.
  refine Waits.congr ?_ hrestore
  split
  · exact .pure _ _
  · rename_i hlist
    apply (confirm_waits _ σ).bind (fun _ => confirm_parallel _)
    · rintro t p ⟨rfl, rfl⟩
      simp only [asking_bind, pure_bind]
      exact .restoring
    · intro yes ρ hconfirm
      have hfiles := confirm_files hconfirm
      split
      · rw [← hfiles]
        apply (chooseSaved_waits signature ρ).bind fun _ => Parallel.put_eq _ _ _
        · rintro t p ⟨rfl, rfl⟩
          simp only [choosing_bind, pure_bind]
          exact .choosing (hfiles ▸ hlist)
        · exact fun name τ _ => tryLoad_waits name τ
      · exact .pure _ _

/-- One parameter waits at its question, if it is asked for at all. -/
theorem collectOne_waits (function : String) (restored : List (String × Given)) (p : Parameter)
    (σ : Session) :
    Waits (fun _ point => point = s.asking (.ofParameter function p) (pure ∘ some))
      (s.collectOne function restored p) σ := by
  unfold collectOne
  split
  · exact .pure _ σ
  · split
    · exact .pure _ σ
    · rw [map_eq_pure_bind]
      apply (ask_waits _ σ).bind fun _ => ask_parallel _
      · rintro t _ ⟨rfl, -⟩
        rfl
      · exact fun _ _ _ => .pure _ _

/-- A point at the question for one of some parameters. -/
def StandsAmong (s : Setup) (function : String) (overrides : Arguments)
    (restored : List (String × Given)) (params : List Parameter) (point : Point Collection) : Prop :=
  ∃ earlier later, ∃ p : Parameter, ∃ c : Collection, params = earlier ++ p :: later
    ∧ point = s.asking (.ofParameter function p) fun given =>
      s.collectFrom function overrides restored later (c.add p.name given)

/-- Collecting waits at one of the questions for parameters. -/
theorem collectFrom_waits (function : String) (overrides : Arguments)
    (restored : List (String × Given)) (params : List Parameter) (c : Collection) (σ : Session) :
    Waits (fun _ => s.StandsAmong function overrides restored params)
      (s.collectFrom function overrides restored params c) σ := by
  induction params generalizing c σ with
  | nil => exact .pure c σ
  | cons p params ih =>
    -- The points of the later parameters are among those of all of them.
    have hlater (c : Collection) (σ : Session) :
        Waits (fun _ => s.StandsAmong function overrides restored (p :: params))
          (s.collectFrom function overrides restored params c) σ := by
      apply (ih c σ).weaken
      rintro _ _ ⟨earlier, later, p', c', hparams, hpoint⟩
      exact ⟨p :: earlier, later, p', c', congrArg (p :: ·) hparams, hpoint⟩
    rw [collectFrom]
    split
    · exact hlater c σ
    · apply (collectOne_waits function restored p σ).bind fun _ =>
        collectOne_parallel function restored p
      · rintro t _ rfl
        exact ⟨[], params, p, c, rfl, rfl⟩
      · intro given ρ _
        cases given with
        | none => exact hlater c ρ
        | some given => exact hlater _ ρ

/-- Saving is a decision and, if it is taken, the choice of a name. -/
theorem save_eq (c : Collection) :
    s.save signature c = s.confirm (.save signature.name) >>= fun yes =>
      if yes then some <$> s.chooseNew signature c else pure none := rfl

/-- The choice of a name waits at its question. -/
theorem chooseNew_waits (c : Collection) (σ : Session) :
    Waits (fun _ point => point = s.naming signature c pure) (s.chooseNew signature c) σ := by
  apply (Waits.put _ _ σ).weaken
  rintro t _ ⟨rfl, -⟩
  rw [naming]

/-- Saving waits at the decision or at the choice of a name. -/
theorem save_waits (c : Collection) (σ : Session) :
    Waits (fun _ point => point = s.asking (.save signature.name) (fun given =>
          if given.value.asBool?.getD false then some <$> s.chooseNew signature c else pure none)
        ∨ point = s.naming signature c (pure ∘ some))
      (s.save signature c) σ := by
  -- The two questions of the phase: whether to save, and under which name.
  rw [save_eq]
  apply (confirm_waits _ σ).bind (fun _ => confirm_parallel _)
  · rintro t _ ⟨rfl, -⟩
    exact Or.inl (by simp only [asking_bind, pure_bind])
  · intro yes ρ _
    split
    · rw [map_eq_pure_bind]
      apply (chooseNew_waits c ρ).bind fun _ => Parallel.put_eq _ _ _
      · rintro t _ rfl
        exact Or.inr (naming_bind c _ _)
      · exact fun _ _ _ => .pure _ _
    · exact .pure _ _

/-- What comes after the questions for parameters waits at the decision or at the choice of a
    name. -/
theorem saving_waits (overrides : Arguments) {c : Collection}
    (hrestored : ∀ name, c.restoredFrom = some name → Filename.check (.str name) = .ok name)
    (σ : Session) :
    Waits (Stands s signature overrides) (s.saving signature c) σ := by
  unfold saving
  split
  · apply (save_waits c σ).bind (fun _ => save_parallel (SavesSame.eq s signature) c)
    · rintro t _ (rfl | rfl)
      · simp only [asking_bind]
        exact .saving c hrestored
      · simp only [naming_bind, Function.comp_apply, pure_bind]
        exact .naming c hrestored
    · exact fun _ _ _ => .pure _ _
  · exact .pure _ _

/-- What comes after restoring is collecting, and then saving. -/
theorem collectRest_eq (restored : List (String × Given) × Option String) :
    s.collectRest signature overrides restored
      = s.collectFrom signature.name overrides restored.1 signature.params
        (Collection.start restored.2) >>= s.saving signature := rfl

/-- What comes after restoring waits at points of a run of questions, if the name that was restored
    from is valid. -/
theorem collectRest_waits {restored : List (String × Given) × Option String}
    (hrestored : ∀ name, restored.2 = some name → Filename.check (.str name) = .ok name)
    (σ : Session) :
    Waits (Stands s signature overrides) (s.collectRest signature overrides restored) σ := by
  rw [collectRest_eq]
  apply (collectFrom_waits _ _ _ _ _ σ).bind fun _ => collectFrom_parallel _ _ _ _ _
  · rintro t _ ⟨earlier, later, p, c, hparams, rfl⟩
    exact .parameter hparams restored.1 c
  · intro c ρ hfrom
    apply saving_waits
    rw [(collectFrom_keeps hfrom).1]
    exact hrestored

/-- Only a valid name is restored from. -/
theorem restore_check {restored : List (String × Given) × Option String} {σ τ : Session}
    (h : (s.restore signature overrides).run σ = .ok restored τ) {name : String}
    (hname : restored.2 = some name) : Filename.check (.str name) = .ok name := by
  rw [restore_run_eq] at h
  split at h
  · obtain ⟨rfl, -⟩ := Dialogue.run_pure_eq_ok.mp h
    cases hname
  · obtain ⟨yes, ρ, -, h⟩ := Dialogue.run_bind_eq_ok.mp h
    split at h
    · obtain ⟨chosen, ρ', hchoose, hload⟩ := Dialogue.run_bind_eq_ok.mp h
      obtain ⟨rfl, -, -⟩ := tryLoad_run_eq_ok hload
      obtain rfl : chosen = name := by
        unfold loaded at hname
        split at hname <;> cases hname
        rfl
      -- The name that is restored has passed the judge of the question.
      obtain ⟨files, answer, hjudge⟩ := Dialogue.put_accepted hchoose
      obtain ⟨found, hfound, hkept⟩ := Judgment.bind_eq_accepted.mp (Prod.mk.inj hjudge).1
      split at hkept
      · obtain rfl := Judgment.accepted.inj hkept
        exact (readName_accepted hfound).1
      · cases hkept
    · obtain ⟨rfl, -⟩ := Dialogue.run_pure_eq_ok.mp h
      cases hname

/-- **Waiting.** A run of questions that lacks an answer stands at one of its points. -/
theorem collect_waits (signature : Signature) (overrides : Arguments) (σ : Session) :
    Waits (Stands s signature overrides) (s.collect signature overrides) σ := by
  rw [collect_eq]
  split
  · apply (restore_waits σ).bind fun _ => restore_parallel (ReadsSame.eq s signature overrides)
    · exact fun _ _ h => h
    · intro restored ρ hrestore
      exact collectRest_waits (fun _ => restore_check hrestore) ρ
  · rw [pure_bind]
    exact collectRest_waits (fun _ h => by cases h) σ

end Setup

end Questionnaire
