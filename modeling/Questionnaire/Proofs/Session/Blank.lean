import Questionnaire.Proofs.CommandLine.Asked
import Questionnaire.Proofs.Session.Retry
import Questionnaire.Proofs.Session.Waiting

namespace Questionnaire

/-!
# Blank answers

A blank answer keeps the default of a question.  For the names of configurations the default may
be one that is refused, and then blank answers lead nowhere.

* `Setup.KeepsDefault` — what a run of questions goes on with when a default is kept.
* `Setup.Obstructs` — what can stand in the way of a default.
* `Setup.judge_blank` — at each point of a run, a blank answer meets with one or the other.
* `Setup.collect_blank` — so a default is kept for good, unless it is an obstructed name.
-/

open Questionnaire.Text (trimmed)

namespace Setup

open Dialogue (Asks Point)

variable {s : Setup} {signature : Signature} {overrides : Arguments}

/-! ### Defaults -/

/-- What a run of questions goes on with after the default of a question has been kept, and the
    files then. -/
inductive KeepsDefault (s : Setup) (signature : Signature) (overrides : Arguments)
    (files : FileTree) : Question → Dialogue Collection → FileTree → Prop
  /-- Nothing is restored. -/
  | restoring : KeepsDefault s signature overrides files (.restore signature.name)
      (s.collectRest signature overrides ([], none)) files
  /-- The latest configuration is restored. -/
  | choosing {latest : String} {others : List String}
      (hlist : (s.store signature).list files = latest :: others)
      (hcheck : Filename.check (.str latest) = .ok latest)
      (hfile : files.isFile ((s.store signature).pathFor latest) = true) :
      KeepsDefault s signature overrides files (.savedName signature.name latest (latest :: others))
        (s.tryLoad signature overrides latest >>= s.collectRest signature overrides) files
  /-- The parameter has its default, and no answer that would give it. -/
  | parameter {earlier later : List Parameter} {p : Parameter} {v : Value}
      (hparams : signature.params = earlier ++ p :: later) (hdefault : p.default = some v)
      (restored : List (String × Given)) (c : Collection) :
      KeepsDefault s signature overrides files (.ofParameter signature.name p)
        (s.collectFrom signature.name overrides restored later (c.add p.name ⟨v, none⟩)
          >>= s.saving signature) files
  /-- The answers are to be saved. -/
  | saving (c : Collection) :
      KeepsDefault s signature overrides files (.save signature.name)
        (s.chooseNew signature c >>= fun path => pure { c with savedTo := some path }) files
  /-- They have been saved under the suggested name. -/
  | naming (c : Collection) {path : String} {files' : FileTree}
      (hsave : (s.store signature).save files (c.restoredFrom.getD signature.name) ⟨c.tokens⟩
        = (.ok path, files')) :
      KeepsDefault s signature overrides files (newNameQuestion signature c)
        (pure { c with savedTo := some path }) files'

/-- What stands in the way of the default of a question, with the report and the files then. -/
inductive Obstructs (s : Setup) (signature : Signature) (files : FileTree) :
    Question → Report → FileTree → Prop
  /-- The latest configuration has a name that cannot be entered. -/
  | unfitLatest {latest : String} {others : List String} {fault : Filename.Fault}
      (hlist : (s.store signature).list files = latest :: others)
      (hcheck : Filename.check (.str latest) = .error fault) :
      Obstructs s signature files (.savedName signature.name latest (latest :: others))
        (s.error fault.message) files
  /-- The path of the latest configuration leads to no file. -/
  | missingLatest {latest : String} {others : List String}
      (hlist : (s.store signature).list files = latest :: others)
      (hcheck : Filename.check (.str latest) = .ok latest)
      (hfile : files.isFile ((s.store signature).pathFor latest) = false) :
      Obstructs s signature files (.savedName signature.name latest (latest :: others))
        (s.error "There exists no file with the given filename.") files
  /-- Nothing has been restored, and the name of the function is no name for a configuration. -/
  | unfitFunction {fault : Filename.Fault}
      (hcheck : Filename.check (.str signature.name) = .error fault) :
      Obstructs s signature files (.newName signature.name signature.name)
        (s.error fault.message) files
  /-- The answers cannot be written. -/
  | unwritten (c : Collection) {e : StoreError} {files' : FileTree}
      (hsave : (s.store signature).save files (c.restoredFrom.getD signature.name) ⟨c.tokens⟩
        = (.error e, files')) :
      Obstructs s signature files (newNameQuestion signature c) (s.error e.message) files'

/-! ### Blank answers -/

/-- A blank answer is read as the default. -/
theorem read_blank {q : Question} {v : Value} {blank : String} (hdefault : q.default = some v)
    (hblank : trimmed blank = "") : s.read q blank = .accepted ⟨v, none⟩ := by
  simp [read, hblank, hdefault]

/-- A blank answer to a question for a name gives the default, if that is a valid name. -/
theorem readName_blank {q : Question} {name blank : String} (hdefault : q.default = some (.str name))
    (hblank : trimmed blank = "") :
    s.readName q blank = match Filename.check (.str name) with
      | .ok name => .accepted name
      | .error fault => .refused (s.error fault.message) := by
  show (s.read q blank).bind _ = _
  rw [read_blank hdefault hblank]
  rfl

/-- A blank answer chooses the latest configuration, if that has a valid name and a file. -/
theorem judgeSavedName_blank {files : FileTree} {latest : String} {others : List String}
    (hlist : (s.store signature).list files = latest :: others) {blank : String}
    (hblank : trimmed blank = "") :
    s.judgeSavedName (s.store signature) (latest :: others)
        (.savedName signature.name latest (latest :: others)) files blank = .accepted latest
      ∧ s.KeepsDefault signature overrides files (.savedName signature.name latest (latest :: others))
        (s.tryLoad signature overrides latest >>= s.collectRest signature overrides) files
    ∨ ∃ report, s.judgeSavedName (s.store signature) (latest :: others)
        (.savedName signature.name latest (latest :: others)) files blank = .refused report
      ∧ s.Obstructs signature files (.savedName signature.name latest (latest :: others)) report
        files := by
  have hread := readName_blank (s := s) (q := .savedName signature.name latest (latest :: others))
    rfl hblank
  rw [judgeSavedName, hread]
  -- The name stands in the list of the store, but whoever copied the file chose it: neither its
  -- letters nor the file behind it need be in order.
  cases hcheck : Filename.check (.str latest) with
  | error fault => exact Or.inr ⟨_, rfl, .unfitLatest hlist hcheck⟩
  | ok name =>
    obtain rfl : latest = name := by simpa using (Filename.check_ok hcheck).1
    cases hfile : files.isFile ((s.store signature).pathFor latest) with
    | true => exact Or.inl ⟨by simp [Judgment.bind, hfile], .choosing hlist hcheck hfile⟩
    | false => exact Or.inr ⟨_, by simp [Judgment.bind, hfile], .missingLatest hlist hcheck hfile⟩

/-- A blank answer saves the answers under the suggested name, if that is valid and nothing goes
    wrong. -/
theorem judgeNewName_blank (files : FileTree) {c : Collection}
    (hrestored : ∀ name, c.restoredFrom = some name → Filename.check (.str name) = .ok name)
    {blank : String} (hblank : trimmed blank = "") :
    (∃ path files', s.judgeNewName (s.store signature) ⟨c.tokens⟩ (newNameQuestion signature c)
        files blank = (.accepted path, files')
      ∧ s.KeepsDefault signature overrides files (newNameQuestion signature c)
        (pure { c with savedTo := some path }) files')
    ∨ ∃ report files', s.judgeNewName (s.store signature) ⟨c.tokens⟩ (newNameQuestion signature c)
        files blank = (.refused report, files')
      ∧ s.Obstructs signature files (newNameQuestion signature c) report files' := by
  have hread := readName_blank (s := s) (q := newNameQuestion signature c) rfl hblank
  rw [judgeNewName, hread]
  cases hcheck : Filename.check (.str (c.restoredFrom.getD signature.name)) with
  | error fault =>
    refine Or.inr ⟨_, files, rfl, ?_⟩
    cases hname : c.restoredFrom with
    | none =>
      rw [hname] at hcheck
      rw [newNameQuestion, hname]
      exact .unfitFunction hcheck
    | some name =>
      -- A name from which something has been restored is valid.
      rw [hname, Option.getD_some, hrestored name hname] at hcheck
      cases hcheck
  | ok name =>
    obtain rfl : c.restoredFrom.getD signature.name = name := by
      simpa using (Filename.check_ok hcheck).1
    cases hsave : (s.store signature).save files (c.restoredFrom.getD signature.name) ⟨c.tokens⟩ with
    | mk result files' =>
      simp only [hsave]
      cases result with
      | ok path => exact Or.inl ⟨path, files', rfl, .naming c hsave⟩
      | error e => exact Or.inr ⟨_, files', rfl, .unwritten c hsave⟩

/-- At a point of a run, a blank answer keeps the default, or something stands in the way. -/
theorem judge_blank {files : FileTree} {p : Point Collection}
    (h : s.Stands signature overrides files p) {v : Value} (hdefault : p.question.default = some v)
    {blank : String} (hblank : trimmed blank = "") :
    (∃ a files', p.judge files blank = (.accepted a, files')
      ∧ s.KeepsDefault signature overrides files p.question (p.after a) files')
    ∨ ∃ report files', p.judge files blank = (.refused report, files')
      ∧ s.Obstructs signature files p.question report files' := by
  -- A question for a value takes its default.
  have hasked {q : Question} {v : Value} (hdefault : q.default = some v)
      (after : Given → Dialogue Collection) :
      (s.asking q after).judge files blank = (.accepted ⟨v, none⟩, files) :=
    congrArg (·, files) (judge_takes (.kept hblank hdefault))
  cases h with
  | restoring => exact Or.inl ⟨_, files, hasked rfl _, .restoring⟩
  | choosing hlist =>
    obtain ⟨latest, others, hlist⟩ := List.exists_cons_of_ne_nil hlist
    have hq : s.savedNameQuestion signature files
        = .savedName signature.name latest (latest :: others) := by
      rw [savedNameQuestion, hlist]
      rfl
    rw [Setup.choosing, hq, hlist]
    rcases judgeSavedName_blank hlist hblank with ⟨hjudge, hkeeps⟩ | ⟨report, hjudge, hobstructs⟩
    · exact Or.inl ⟨latest, files, congrArg (·, files) hjudge, hkeeps⟩
    · exact Or.inr ⟨report, files, congrArg (·, files) hjudge, hobstructs⟩
  | parameter hparams restored c =>
    exact Or.inl ⟨_, files, hasked hdefault _, .parameter hparams hdefault restored c⟩
  | saving c hrestored =>
    refine Or.inl ⟨_, files, hasked rfl _, ?_⟩
    have hyes : (some <$> s.chooseNew signature c >>= fun savedTo =>
          (pure { c with savedTo } : Dialogue Collection))
        = s.chooseNew signature c >>= fun path => pure { c with savedTo := some path } := by
      simp only [map_eq_pure_bind, bind_assoc, pure_bind]
    show s.KeepsDefault signature overrides files (.save signature.name)
      (some <$> s.chooseNew signature c >>= fun savedTo => pure { c with savedTo }) files
    rw [hyes]
    exact .saving c
  | naming c hrestored =>
    simp only [Setup.naming]
    exact judgeNewName_blank files hrestored hblank

/-! ### What is asked afterwards -/

variable {P : Question → Prop}

/-- Choosing a name asks for the name only. -/
theorem chooseNew_asks {c : Collection} (h : P (newNameQuestion signature c)) :
    Asks P (s.chooseNew signature c) := .put h _

/-- Saving asks whether to save, and for the name. -/
theorem save_asks {c : Collection} (hsave : P (.save signature.name))
    (hname : P (newNameQuestion signature c)) : Asks P (s.save signature c) := by
  rw [save_eq]
  apply (confirm_modular Dialogue.asks_modular (Asks.put hsave _)).bind
  intro yes
  split
  · exact Dialogue.asks_modular.map (chooseNew_asks hname) some
  · exact .of_events fun _ => rfl

/-- The end of a run asks whether to save and for the name, if there is a store at all. -/
theorem saving_asks {c : Collection} (hsave : P (.save signature.name))
    (hname : P (newNameQuestion signature c)) : Asks P (s.saving signature c) := by
  unfold saving
  split
  · exact (save_asks hsave hname).bind fun _ => .of_events fun _ => rfl
  · exact .of_events fun _ => rfl

/-- Collecting asks for parameters only. -/
theorem collectFrom_asks {function : String} {params : List Parameter}
    (hparams : ∀ p ∈ params, P (.ofParameter function p)) (restored : List (String × Given))
    (c : Collection) : Asks P (s.collectFrom function overrides restored params c) :=
  collectFrom_modular Dialogue.asks_modular restored (fun p hp _ _ => .put (hparams p hp) _) c

/-- What comes after restoring asks for parameters and about saving. -/
theorem collectRest_asks (hparams : ∀ p ∈ signature.params, P (.ofParameter signature.name p))
    (hsave : P (.save signature.name)) (hname : ∀ c, P (newNameQuestion signature c))
    (restored : List (String × Given) × Option String) :
    Asks P (s.collectRest signature overrides restored) :=
  (collectFrom_asks hparams restored.1 _).bind fun c => saving_asks hsave (hname c)

/-- A question for a parameter is none of the session itself. -/
theorem ofParameter_ne {function : String} {p : Parameter} {q : Question}
    (hq : q.isParameter = false) : Question.ofParameter function p ≠ q := by
  rintro rfl
  cases hq

/-- Questions for things of different names are different. -/
theorem ne_of_parameter {q q' : Question} {name name' : String} (hq : q.parameter = name)
    (hq' : q'.parameter = name') (hne : name ≠ name') : q ≠ q' := by
  rintro rfl
  exact hne (hq.symm.trans hq')

/-- The two questions for names are different. -/
theorem newName_ne_savedName (function suggestion other latest : String) (names : List String) :
    Question.newName function suggestion ≠ .savedName other latest names := by
  intro h
  have hdoc := congrArg Question.doc h
  simp only [Question.newName, Question.savedName, Question.ofSession] at hdoc
  have hhead := congrArg (fun doc => doc.toList.head?) (Option.some.inj hdoc)
  simp [String.toList_append] at hhead

/-- A question whose default has been kept is not put again. -/
theorem KeepsDefault.asks_others (hwf : signature.WellFormed) {files files' : FileTree} {q : Question}
    {rest : Dialogue Collection} (h : s.KeepsDefault signature overrides files q rest files') :
    Asks (· ≠ q) rest := by
  cases h with
  | restoring =>
    apply collectRest_asks
    · exact fun p _ => ofParameter_ne rfl
    · exact ne_of_parameter rfl rfl (by decide : "Save" ≠ "Restore")
    · exact fun c => ne_of_parameter rfl rfl (by decide : "Filename" ≠ "Restore")
  | choosing hlist hcheck hfile =>
    apply (tryLoad_modular Dialogue.asks_modular signature overrides _).bind
    apply collectRest_asks
    · exact fun p _ => ofParameter_ne rfl
    · exact ne_of_parameter rfl rfl (by decide : "Save" ≠ "Filename")
    · exact fun c => newName_ne_savedName _ _ _ _ _
  | parameter hparams hdefault restored c =>
    apply (collectFrom_asks _ restored _).bind
    · intro c'
      exact saving_asks (ofParameter_ne rfl).symm (ofParameter_ne rfl).symm
    · -- The names of later parameters are others.
      intro p' hp' hsame
      have hdistinct := hwf.distinct
      rw [hparams, List.map_append, List.map_cons] at hdistinct
      have hfresh := (List.nodup_cons.mp (List.nodup_append.mp hdistinct).2.1).1
      exact hfresh (List.mem_map.mpr ⟨p', hp', congrArg Question.parameter hsame⟩)
  | saving c =>
    refine (chooseNew_asks ?_).bind fun _ => .of_events fun _ => rfl
    exact ne_of_parameter rfl rfl (by decide : "Filename" ≠ "Save")
  | naming c hsave => exact .of_events fun _ => rfl

/-! ### Which defaults are kept -/

/-- The choice of a configuration tells which one is the latest. -/
theorem latest_eq_of_savedName_eq {function other latest latest' : String}
    {names names' : List String}
    (h : Question.savedName function latest names = .savedName other latest' names') :
    latest = latest' :=
  Value.str.inj (Option.some.inj (congrArg Question.default h))

/-- Only names are obstructed. -/
theorem Obstructs.isName {files files' : FileTree} {q : Question} {report : Report}
    (h : s.Obstructs signature files q report files') : q.parameter = "Filename" := by
  cases h <;> rfl

/-- The default of the first question declines to restore. -/
theorem KeepsDefault.declines {files files' : FileTree} {rest : Dialogue Collection}
    (h : s.KeepsDefault signature overrides files (.restore signature.name) rest files') :
    rest = s.collectRest signature overrides ([], none) ∧ files' = files := by
  generalize hq : Question.restore signature.name = q at h
  cases h with
  | restoring => exact ⟨rfl, rfl⟩
  | choosing => exact absurd hq (ne_of_parameter rfl rfl (by decide : "Restore" ≠ "Filename"))
  | parameter => exact absurd hq.symm (ofParameter_ne rfl)
  | saving => exact absurd hq (ne_of_parameter rfl rfl (by decide : "Restore" ≠ "Save"))
  | naming => exact absurd hq (ne_of_parameter rfl rfl (by decide : "Restore" ≠ "Filename"))

/-- A name that is not valid is not kept. -/
theorem not_keepsDefault_unfit {files files' : FileTree} {latest : String} {names : List String}
    {fault : Filename.Fault} (hcheck : Filename.check (.str latest) = .error fault)
    {rest : Dialogue Collection} :
    ¬ s.KeepsDefault signature overrides files (.savedName signature.name latest names) rest files' := by
  intro h
  generalize hq : Question.savedName signature.name latest names = q at h
  cases h with
  | restoring => exact absurd hq (ne_of_parameter rfl rfl (by decide : "Filename" ≠ "Restore"))
  | choosing _ hvalid =>
    obtain rfl := latest_eq_of_savedName_eq hq
    rw [hcheck] at hvalid
    cases hvalid
  | parameter => exact absurd hq.symm (ofParameter_ne rfl)
  | saving => exact absurd hq (ne_of_parameter rfl rfl (by decide : "Filename" ≠ "Save"))
  | naming => exact absurd hq.symm (newName_ne_savedName _ _ _ _ _)

/-- It is reported, and files stay as they are. -/
theorem Obstructs.unfit {files files' : FileTree} {latest : String} {names : List String}
    {fault : Filename.Fault} (hcheck : Filename.check (.str latest) = .error fault)
    {report : Report}
    (h : s.Obstructs signature files (.savedName signature.name latest names) report files') :
    report = s.error fault.message ∧ files' = files := by
  generalize hq : Question.savedName signature.name latest names = q at h
  cases h with
  | unfitLatest _ hfault =>
    obtain rfl := latest_eq_of_savedName_eq hq
    obtain rfl := Except.error.inj (hcheck.symm.trans hfault)
    exact ⟨rfl, rfl⟩
  | missingLatest _ hvalid =>
    obtain rfl := latest_eq_of_savedName_eq hq
    rw [hcheck] at hvalid
    cases hvalid
  | unfitFunction => exact absurd hq.symm (newName_ne_savedName _ _ _ _ _)
  | unwritten => exact absurd hq.symm (newName_ne_savedName _ _ _ _ _)

/-! ### Runs of questions -/

/-- **Blank answers.** Wherever a run of questions waits at a question with a default, a blank
    answer keeps the default: the run goes on with it, and the question is not put again.  Only the
    default of a name can be obstructed, because it is no valid name, or because its path leads to
    no file, or because the file cannot be written; then the question is put again after a report,
    and again after each further blank answer unless files have changed. -/
theorem collect_blank {name : String} {steps : List Signature.Step}
    (hbuild : Signature.build name steps = .ok signature) (s : Setup) (overrides : Arguments)
    {σ τ : Session} {q : Question}
    (hstop : (s.collect signature overrides).run σ = .error (.unanswered q) τ) {v : Value}
    (hdefault : q.default = some v) {blank : String} (hblank : trimmed blank = "") :
    (∃ rest files', s.KeepsDefault signature overrides τ.files q rest files' ∧ Asks (· ≠ q) rest
      ∧ ∀ more, (s.collect signature overrides).run
          { σ with answers := σ.answers ++ blank :: more }
        = rest.run ⟨more, files', τ.events ++ [.answered]⟩)
    ∨ ∃ report files', s.Obstructs signature τ.files q report files'
      ∧ (s.collect signature overrides).run { σ with answers := σ.answers ++ [blank] }
        = .error (.unanswered q) ⟨[], files', τ.events ++ [.answered, .reported report, .asked q]⟩
      ∧ (files' = τ.files → ∀ n, (s.collect signature overrides).run
          { σ with answers := σ.answers ++ List.replicate n blank }
        = .error (.unanswered q) ⟨[], τ.files, τ.events
          ++ (List.replicate n [.answered, .reported report, .asked q]).flatten⟩) := by
  -- A point of a run knows its question, its judge and what comes after it, so the default is
  -- judged there once and the rest is read off the judgment.
  obtain ⟨p, hstands, rfl, -, past, hevents, hgoesOn⟩ :=
    collect_waits signature overrides σ q τ hstop
  rcases judge_blank hstands hdefault hblank with
    ⟨a, files', hjudge, hkeeps⟩ | ⟨report, files', hjudge, hobstructs⟩
  · refine Or.inl ⟨_, files', hkeeps, hkeeps.asks_others (Signature.build_wellFormed hbuild).1,
      fun more => ?_⟩
    rw [hgoesOn, Point.rest_accepted hjudge, hevents]
    simp
  · refine Or.inr ⟨report, files', hobstructs, ?_, ?_⟩
    · rw [hgoesOn, Point.rest_refused hjudge, Point.rest_unanswered, hevents]
      simp
    · rintro rfl n
      rw [hgoesOn, Point.rest_refused_again hjudge, hevents]

/-- With a configuration in the list, a run begins with the question whether to restore. -/
theorem collect_run_listed (hsaves : s.enableSaves = true) {files : FileTree}
    (hlist : (s.store signature).list files ≠ []) (answers : List String) (past : List Event) :
    (s.collect signature overrides).run ⟨answers, files, past⟩
      = (s.asking (.restore signature.name) fun given =>
        (if given.value.asBool?.getD false then
          s.chooseSaved signature files >>= s.tryLoad signature overrides
        else pure ([], none)) >>= s.collectRest signature overrides).rest.run
          ⟨answers, files, past⟩ := by
  rw [collect_eq, if_pos hsaves, EStateM.run_bind, restore_run_eq, if_neg hlist,
    ← EStateM.run_bind]
  simp only [confirm, bind_assoc, pure_bind]
  rfl

/-- Once that is accepted, it goes on to the question for a name. -/
theorem collect_run_chosen (hsaves : s.enableSaves = true) {files : FileTree} {latest : String}
    {others : List String} (hlist : (s.store signature).list files = latest :: others)
    {yes : String} (hyes : Answer.evaluate s.functions yes = .ok (.bool true))
    (past : List Event) :
    (s.collect signature overrides).run ⟨[yes], files, past⟩
      = .error (.unanswered (.savedName signature.name latest (latest :: others)))
        ⟨[], files, past ++ [.asked (.restore signature.name), .answered,
          .asked (.savedName signature.name latest (latest :: others))]⟩ := by
  have hjudge : s.judge (.restore signature.name) yes = .accepted _ := judge_evaluate hyes rfl
  have hchoose (past : List Event) : (s.chooseSaved signature files).run ⟨[], files, past⟩
      = .error (.unanswered (.savedName signature.name latest (latest :: others)))
        ⟨[], files, past ++ [.asked (.savedName signature.name latest (latest :: others))]⟩ := by
    rw [chooseSaved, savedNameQuestion, hlist]
    rfl
  have hlisted : (s.store signature).list files ≠ [] := by simp [hlist]
  rw [collect_run_listed hsaves hlisted, asking_accepted hjudge, if_pos (by rfl),
    EStateM.run_bind, EStateM.run_bind, hchoose]
  simp

/-- A latest configuration whose name is not valid is refused as the default that it is. -/
theorem collect_run_unfit {latest : String} {names : List String} {fault : Filename.Fault}
    (hcheck : Filename.check (.str latest) = .error fault) {σ τ : Session}
    (hstop : (s.collect signature overrides).run σ
      = .error (.unanswered (.savedName signature.name latest names)) τ)
    {blank : String} (hblank : trimmed blank = "") :
    (s.collect signature overrides).run { σ with answers := σ.answers ++ [blank] }
      = .error (.unanswered (.savedName signature.name latest names))
        ⟨[], τ.files, τ.events ++ [.answered, .reported (s.error fault.message),
          .asked (.savedName signature.name latest names)]⟩ := by
  obtain ⟨p, hstands, hq, -, past, hevents, hgoesOn⟩ :=
    collect_waits signature overrides σ _ τ hstop
  have hdefault : p.question.default = some (.str latest) := by
    rw [hq]
    rfl
  rcases judge_blank hstands hdefault hblank with
    ⟨a, files', -, hkeeps⟩ | ⟨report, files', hjudge, hobstructs⟩
  -- The default cannot be kept, as that would make the name valid.
  · rw [hq] at hkeeps
    exact absurd hkeeps (not_keepsDefault_unfit hcheck)
  -- `Obstructs` leaves no other report for a name that is not valid.
  · rw [hq] at hobstructs
    obtain ⟨rfl, rfl⟩ := hobstructs.unfit hcheck
    rw [hgoesOn, Point.rest_refused hjudge, Point.rest_unanswered, hevents, hq]
    simp

/-- A tree with a configuration whose name holds a reserved character. -/
def reserved : FileTree :=
  ⟨[(["f-saves"], .directory), (["f-saves", "a:b.f"], .file "function = 'f'\n".toUTF8 0)], 1⟩

/-- It is the only one that is listed. -/
theorem list_reserved : (Store.below "." "f").list reserved = ["a:b"] := by
  have hlisted : (Store.below "." "f").listed reserved = [(0, "a:b")] := rfl
  rw [Store.list_eq, hlisted, List.mergeSort_singleton]
  rfl

/-- A run of questions that accepts to restore there waits at the question for a name. -/
theorem collect_run_reserved (hname : signature.name = "f") :
    (Setup.collect ⟨[], ⟨0⟩, true, "."⟩ signature Arguments.empty).run ⟨["True"], reserved, []⟩
      = .error (.unanswered (.savedName signature.name "a:b" ["a:b"]))
        ⟨[], reserved, [.asked (.restore signature.name), .answered,
          .asked (.savedName signature.name "a:b" ["a:b"])]⟩ := by
  have hlist : (Setup.store ⟨[], ⟨0⟩, true, "."⟩ signature).list reserved = ["a:b"] := by
    rw [store, hname]
    exact list_reserved
  have hyes : Answer.evaluate [] "True" = .ok (.bool true) := rfl
  exact collect_run_chosen rfl hlist hyes []

/-- The latest configuration is shown there as the default, and a blank answer does not keep it: it
    is refused, and the question is put again. -/
theorem reserved_default_refused :
    ∃ signature, Signature.build "f" [] = .ok signature
      ∧ (Question.savedName "f" "a:b" ["a:b"]).default = some (.str "a:b")
      ∧ (Setup.collect ⟨[], ⟨0⟩, true, "."⟩ signature Arguments.empty).run
          ⟨["True", ""], reserved, []⟩
        = .error (.unanswered (.savedName "f" "a:b" ["a:b"])) ⟨[], reserved,
          [.asked (.restore "f"), .answered, .asked (.savedName "f" "a:b" ["a:b"]), .answered,
            .reported (.error "The filename contains an invalid character." ⟨0⟩),
            .asked (.savedName "f" "a:b" ["a:b"])]⟩ := by
  obtain ⟨signature, hsignature⟩ : ∃ signature : Signature, signature = ⟨"f", none, []⟩ := ⟨_, rfl⟩
  have hname : signature.name = "f" := by rw [hsignature]
  have hcheck : Filename.check (.str "a:b") = .error .reservedCharacter := rfl
  have hblank : trimmed "" = "" := rfl
  rw [← hname]
  refine ⟨signature, ?_, rfl, ?_⟩
  · rw [hsignature]
    rfl
  · exact collect_run_unfit hcheck (collect_run_reserved hname) hblank

/-- A blank answer declines to restore.  At the question for a name, however many blank answers
    there are, each one is refused, since the latest configuration has a reserved character. -/
theorem collect_blank_reserved :
    ∃ signature, Signature.build "f" [] = .ok signature
      ∧ (∀ more, (Setup.collect ⟨[], ⟨0⟩, true, "."⟩ signature Arguments.empty).run
          ⟨"" :: more, reserved, []⟩
        = (Setup.collectRest ⟨[], ⟨0⟩, true, "."⟩ signature Arguments.empty ([], none)).run
          ⟨more, reserved, [.asked (.restore "f"), .answered]⟩)
      ∧ ∀ n, (Setup.collect ⟨[], ⟨0⟩, true, "."⟩ signature Arguments.empty).run
          ⟨"True" :: List.replicate n "", reserved, []⟩
        = .error (.unanswered (.savedName "f" "a:b" ["a:b"])) ⟨[], reserved,
          [.asked (.restore "f"), .answered, .asked (.savedName "f" "a:b" ["a:b"])]
          ++ (List.replicate n [.answered,
            .reported (.error "The filename contains an invalid character." ⟨0⟩),
            .asked (.savedName "f" "a:b" ["a:b"])]).flatten⟩ := by
  obtain ⟨signature, hsignature⟩ : ∃ signature : Signature, signature = ⟨"f", none, []⟩ := ⟨_, rfl⟩
  have hbuild : Signature.build "f" [] = .ok signature := by rw [hsignature]; rfl
  have hname : signature.name = "f" := by rw [hsignature]
  have hlist : (Setup.store ⟨[], ⟨0⟩, true, "."⟩ signature).list reserved = ["a:b"] := by
    rw [hsignature]
    exact list_reserved
  have hfirst : (Setup.collect ⟨[], ⟨0⟩, true, "."⟩ signature Arguments.empty).run
      ⟨[], reserved, []⟩ = .error (.unanswered (.restore signature.name))
        ⟨[], reserved, [.asked (.restore signature.name)]⟩ :=
    (collect_run_listed rfl (by rw [hlist]; nofun) [] []).trans (Point.rest_unanswered _ _ _)
  have hsecond := collect_run_reserved hname
  have hblank : trimmed "" = "" := rfl
  have hno : (Question.restore signature.name).default = some (.bool false) := rfl
  have hlatest : (Question.savedName signature.name "a:b" ["a:b"]).default
    = some (.str "a:b") := rfl
  have hcheck : Filename.check (.str "a:b") = .error .reservedCharacter := rfl
  rw [← hname]
  refine ⟨signature, hname ▸ hbuild, fun more => ?_, fun n => ?_⟩
  -- The first question has the default `False`, which nothing obstructs.
  · rcases collect_blank hbuild _ Arguments.empty hfirst hno hblank with
      ⟨rest, files', hkeeps, -, hrun⟩ | ⟨report, files', hobstructs, -⟩
    · obtain ⟨rfl, rfl⟩ := hkeeps.declines
      exact hrun more
    · exact absurd hobstructs.isName (by decide : "Restore" ≠ "Filename")
  -- The second has the name of the latest configuration, and stays where it is.
  · rcases collect_blank hbuild _ Arguments.empty hsecond hlatest hblank with
      ⟨rest, files', hkeeps, -, -⟩ | ⟨report, files', hobstructs, -, hagain⟩
    · exact absurd hkeeps (not_keepsDefault_unfit hcheck)
    · obtain ⟨rfl, rfl⟩ := hobstructs.unfit hcheck
      exact hagain rfl n

end Setup

end Questionnaire
