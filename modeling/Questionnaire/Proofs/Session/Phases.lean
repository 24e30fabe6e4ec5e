import Questionnaire.Proofs.Session.Parts

namespace Questionnaire

/-!
# The order of the questions

What is asked in a run of questions, told without the program: each question is put in rounds until
an answer is taken, and the rounds follow each other in three phases.

* `Question.fitting`, `Question.decision`, `Question.filename` — what an answer is taken for.
* `Asked`, `Rounds` — a question, put until an answer is taken.
* `Setup.RestorePhase`, `Setup.ParameterPhase`, `Setup.SavePhase` — the three phases.
* `Setup.Protocol` — a run of questions from its beginning to its end.
* `Setup.collect_protocol` — every run of questions that has a result is of this kind.
-/

open Questionnaire.Text (trimmed)

variable {α β : Type}

/-! ### What answers are taken for -/

namespace Question

/-- The value of an answer; a blank one stands for the default. -/
def valueOf (functions : List String) (q : Question) (answer : String) : Option Value :=
  if trimmed answer = "" then q.default else (Answer.evaluate functions answer).toOption

/-- The value of an answer is what it evaluates to. -/
theorem valueOf_evaluate {functions : List String} (q : Question) {answer : String} {v : Value}
    (h : Answer.evaluate functions answer = .ok v) : q.valueOf functions answer = some v := by
  rw [Question.valueOf, if_neg (Answer.trimmed_ne_empty_of_evaluate h), h]
  rfl

/-- The value of an answer, if it has the declared type. -/
def fitting (functions : List String) (q : Question) (answer : String) : Option Value :=
  (q.valueOf functions answer).filter q.type.accepts

/-- The truth value that an answer has. -/
def decision (functions : List String) (q : Question) (answer : String) : Option Bool :=
  (q.valueOf functions answer).bind Value.asBool?

/-- The valid name that an answer has. -/
def filename (functions : List String) (q : Question) (answer : String) : Option String :=
  (q.valueOf functions answer).bind fun v => (Filename.check v).toOption

end Question

/-! ### Rounds -/

/-- A question is put until an answer is taken: all answers but the last one are not. -/
def Asked (q : Question) (takes : String → Option α) (es : List Exchange) (a : α) : Prop :=
  ∃ (wrong : List String) (answer : String), es = wrong.map (⟨q, ·⟩) ++ [⟨q, answer⟩]
    ∧ (∀ x ∈ wrong, takes x = none) ∧ takes answer = some a

/-- The first answer that can be taken is taken. -/
theorem Asked.of_taken {q : Question} {takes : String → Option α} {es : List Exchange} {a b : α}
    (h : Asked q takes es a) {answer : String} {more rest : List String}
    (hanswers : es.map (·.answer) ++ more = answer :: rest) (htaken : takes answer = some b) :
    a = b ∧ more = rest := by
  obtain ⟨wrong, last, rfl, hwrong, hlast⟩ := h
  cases wrong with
  | nil =>
    obtain ⟨rfl, hmore⟩ := List.cons.inj hanswers
    exact ⟨Option.some.inj (hlast.symm.trans htaken), hmore⟩
  | cons x wrong =>
    obtain ⟨rfl, -⟩ := List.cons.inj hanswers
    rw [hwrong x List.mem_cons_self] at htaken
    cases htaken

/-- What is taken can be taken further. -/
theorem Asked.map {q : Question} {takes : String → Option α} {es : List Exchange} {a : α}
    (h : Asked q takes es a) {f : α → β} {takes' : String → Option β}
    (htakes : ∀ answer, (takes answer).map f = takes' answer) : Asked q takes' es (f a) := by
  obtain ⟨wrong, last, hes, hwrong, hlast⟩ := h
  refine ⟨wrong, last, hes, ?_, by rw [← htakes, hlast]; rfl⟩
  intro x hx
  rw [← htakes, hwrong x hx]
  rfl

/-- A question is put until an answer is taken, where taking depends on the files and may change
    them, be the answer taken or not. -/
inductive Rounds (q : Question) (takes : FileTree → String → Option α × FileTree) :
    FileTree → List Exchange → α → FileTree → Prop
  | last {files files' : FileTree} {answer : String} {a : α}
      (h : takes files answer = (some a, files')) : Rounds q takes files [⟨q, answer⟩] a files'
  | again {files files' files'' : FileTree} {answer : String} {es : List Exchange} {a : α}
      (h : takes files answer = (none, files')) (rest : Rounds q takes files' es a files'') :
      Rounds q takes files (⟨q, answer⟩ :: es) a files''

/-- What is taken of a judged answer. -/
def Judgment.toOption : Judgment α → Option α
  | .accepted a => some a
  | _ => none

/-- What has been accepted is taken. -/
@[simp] theorem Judgment.toOption_accepted (a : α) : (Judgment.accepted a).toOption = some a := rfl

/-- Of what has been refused nothing is taken. -/
@[simp] theorem Judgment.toOption_refused (report : Report) :
    (Judgment.refused report : Judgment α).toOption = none := rfl

/-- Of two judgments in turn something is taken if both take it. -/
@[simp] theorem Judgment.toOption_bind (j : Judgment α) (f : α → Judgment β) :
    (j.bind f).toOption = j.toOption.bind fun a => (f a).toOption := by
  cases j <;> rfl

namespace Dialogue

variable {q : Question} {judge : FileTree → String → Judgment α × FileTree} {a : α}

/-- A question that has been put until an answer was accepted was put in rounds. -/
theorem Puts.rounds {files files' : FileTree} {answers : List String} {events : List Event}
    (h : Puts q judge files answers events a files') :
    Rounds q (fun files answer => ((judge files answer).1.toOption, (judge files answer).2))
      files (answers.map (⟨q, ·⟩)) a files' := by
  induction h with
  | accepted hjudge => exact .last (by rw [hjudge]; rfl)
  | refused hjudge _ ih => exact .again (by rw [hjudge]; rfl) ih

/-- Where files are left alone, all answers are judged by the same ones. -/
theorem Puts.asked {judge : FileTree → String → Judgment α} {files files' : FileTree}
    {answers : List String} {events : List Event}
    (h : Puts q (fun files answer => (judge files answer, files)) files answers events a files') :
    Asked q (fun answer => (judge files answer).toOption) (answers.map (⟨q, ·⟩)) a := by
  -- The induction is on the answers put; those that were refused come before the accepted one.
  induction h with
  | @accepted files _ answer a hjudge =>
    have hlast : judge files answer = .accepted a := (Prod.mk.inj hjudge).1
    exact ⟨[], answer, rfl, by simp, congrArg Judgment.toOption hlast⟩
  | @refused files _ _ answer _ answers _ a hjudge _ ih =>
    obtain ⟨hrefused, rfl⟩ := Prod.mk.inj hjudge
    obtain ⟨wrong, last, hes, hwrong, hlast⟩ := ih
    refine ⟨answer :: wrong, last, by rw [List.map_cons, hes]; rfl, ?_, hlast⟩
    intro x hx
    rcases List.mem_cons.mp hx with rfl | hx
    · exact congrArg Judgment.toOption hrefused
    · exact hwrong x hx

end Dialogue

namespace Setup

variable {s : Setup} {signature : Signature} {overrides : Arguments}

/-! ### Judged answers -/

/-- What is read in an answer is its value. -/
theorem read_toOption (s : Setup) (q : Question) (answer : String) :
    (s.read q answer).toOption.map (·.value) = q.valueOf s.functions answer := by
  unfold read Question.valueOf
  dsimp only
  by_cases hblank : trimmed answer = ""
  · rw [if_pos (by simpa using hblank), if_pos hblank]
    cases q.default <;> rfl
  · rw [if_neg (by simpa using hblank), if_neg hblank, ← Answer.evaluate_trimmed]
    unfold Answer.attempt
    cases Answer.evaluate s.functions (trimmed answer) with
    | ok v => rfl
    | error fault => cases fault <;> rfl

/-- An answer is accepted with the value that fits.  The default fits as well. -/
theorem judge_toOption {q : Question} (hdefault : ∀ v, q.default = some v → q.type.accepts v = true)
    (answer : String) :
    (s.judge q answer).toOption.map (·.value) = q.fitting s.functions answer := by
  rw [Question.fitting, ← read_toOption, judge, Judgment.toOption_bind]
  cases hread : s.read q answer with
  | accepted given =>
    -- Only a default has no token, and a default is accepted by its type.
    have hfits : given.token.isNone = true → q.type.accepts given.value = true := by
      intro hnone
      rcases read_accepted hread with ⟨-, -, hvalue⟩ | ⟨hsome, -, -⟩
      · exact hdefault _ hvalue
      · rw [hsome] at hnone
        cases hnone
    by_cases haccepts : q.type.accepts given.value = true
    · simp [haccepts, Option.filter_some]
    · have htoken : given.token ≠ none := fun hnone => haccepts (hfits (by simp [hnone]))
      simp [haccepts, htoken, Option.filter_some]
  | refused report => rfl
  | crashed => rfl

/-- A question for a truth value gets one. -/
theorem judge_decision {q : Question} (htype : q.type = .bool)
    (hdefault : ∀ v, q.default = some v → q.type.accepts v = true) (answer : String) :
    (s.judge q answer).toOption.map (fun given => given.value.asBool?.getD false)
      = q.decision s.functions answer := by
  have hfitting : (s.judge q answer).toOption.map (fun given => given.value.asBool?.getD false)
      = (q.fitting s.functions answer).map fun v => v.asBool?.getD false := by
    rw [← judge_toOption hdefault, Option.map_map]
    rfl
  rw [hfitting, Question.fitting, Question.decision, htype]
  cases q.valueOf s.functions answer with
  | none => rfl
  | some v => cases v <;> simp [ValueType.accepts, Value.asBool?, Option.filter]

/-- A name is read in an answer if it has a valid one. -/
theorem readName_toOption (q : Question) (answer : String) :
    (s.readName q answer).toOption = q.filename s.functions answer := by
  rw [readName, Judgment.toOption_bind, Question.filename, ← read_toOption, Option.bind_map]
  congr 1
  funext given
  dsimp only [Function.comp_apply]
  cases Filename.check given.value <;> rfl

/-- Whether a name is that of a configuration that is there and whose path leads to a file. -/
def isKept (s : Setup) (signature : Signature) (files : FileTree) (name : String) : Bool :=
  ((s.store signature).list files).contains name
    && files.isFile ((s.store signature).pathFor name)

/-- A configuration is chosen if the answer has a valid name that is kept. -/
theorem judgeSavedName_toOption (signature : Signature) (q : Question) (files : FileTree)
    (answer : String) :
    (s.judgeSavedName (s.store signature) ((s.store signature).list files) q files answer).toOption
      = (q.filename s.functions answer).filter (s.isKept signature files) := by
  rw [judgeSavedName, Judgment.toOption_bind, readName_toOption]
  cases q.filename s.functions answer with
  | none => rfl
  | some name =>
    rw [Option.bind_some, Option.filter_some]
    by_cases hkept : s.isKept signature files name = true
    · rw [if_pos hkept]
      exact congrArg Judgment.toOption (if_pos hkept)
    · rw [if_neg hkept]
      exact congrArg Judgment.toOption (if_neg hkept)

/-- Saving under the name that an answer has: the path of the file, if it has been written. -/
def writing (s : Setup) (signature : Signature) (saved : Saved) (q : Question) (files : FileTree)
    (answer : String) : Option String × FileTree :=
  match q.filename s.functions answer with
  | none => (none, files)
  | some name =>
    let (result, files) := (s.store signature).save files name saved
    (result.toOption, files)

/-- The answers are written if the answer has a valid name for them. -/
theorem judgeNewName_toOption (saved : Saved) (q : Question) (files : FileTree) (answer : String) :
    s.writing signature saved q files answer
      = ((s.judgeNewName (s.store signature) saved q files answer).1.toOption,
        (s.judgeNewName (s.store signature) saved q files answer).2) := by
  unfold writing judgeNewName
  rw [← readName_toOption]
  cases s.readName q answer with
  | accepted name =>
    dsimp only [Judgment.toOption]
    obtain ⟨result, files'⟩ := (s.store signature).save files name saved
    cases result <;> rfl
  | refused report => rfl
  | crashed => rfl

/-! ### Phases -/

/-- What has been restored after loading the configuration of a name: values by name, and the name.
    If loading has failed, it is nothing. -/
def loaded (name : String) :
    Except LoadFault (List (String × Given)) → List (String × Given) × Option String
  | .ok restored => (restored, some name)
  | .error _ => ([], none)

/-- The questions about restoring, and what has been restored then: values by name, and the name of
    the configuration.  Only a name that is `known` is taken. -/
inductive RestorePhase (s : Setup) (signature : Signature) (overrides : Arguments)
    (known : String → Bool) (files : FileTree) :
    List Exchange → List (String × Given) × Option String → Prop
  /-- Saves are switched off. -/
  | off (h : s.enableSaves = false) : RestorePhase s signature overrides known files [] ([], none)
  /-- There is no configuration in the list. -/
  | nothing (hsaves : s.enableSaves = true) (hlist : (s.store signature).list files = []) :
      RestorePhase s signature overrides known files [] ([], none)
  /-- The user does not want to restore. -/
  | declined {es : List Exchange} (hsaves : s.enableSaves = true)
      (hlist : (s.store signature).list files ≠ [])
      (hno : Asked (.restore signature.name)
        ((Question.restore signature.name).decision s.functions) es false) :
      RestorePhase s signature overrides known files es ([], none)
  /-- The user does, and has chosen a configuration that is known. -/
  | chosen {es es' : List Exchange} {name : String} (hsaves : s.enableSaves = true)
      (hlist : (s.store signature).list files ≠ [])
      (hyes : Asked (.restore signature.name)
        ((Question.restore signature.name).decision s.functions) es true)
      (hname : Asked (s.savedNameQuestion signature files)
        (fun answer => ((s.savedNameQuestion signature files).filename s.functions answer).filter
          known) es' name) :
      RestorePhase s signature overrides known files (es ++ es')
        (loaded name (s.load signature overrides (s.store signature) files name))

/-- A parameter is asked for unless it is overridden, internal or restored. -/
def isAsked (overrides : Arguments) (restored : List (String × Given)) (p : Parameter) : Bool :=
  !overrides.contains p.name && (!p.isInternal && (restored.lookup p.name).isNone)

/-- The questions for parameters: in their order, each one that is asked for until an answer fits,
    and no other. -/
inductive ParameterPhase (s : Setup) (function : String) (overrides : Arguments)
    (restored : List (String × Given)) : List Parameter → List Exchange → Prop
  | done : ParameterPhase s function overrides restored [] []
  | skipped {p : Parameter} {params : List Parameter} {es : List Exchange}
      (hp : isAsked overrides restored p = false)
      (rest : ParameterPhase s function overrides restored params es) :
      ParameterPhase s function overrides restored (p :: params) es
  | asked {p : Parameter} {params : List Parameter} {es es' : List Exchange} {v : Value}
      (hp : isAsked overrides restored p = true)
      (hfits : Asked (.ofParameter function p)
        ((Question.ofParameter function p).fitting s.functions) es v)
      (rest : ParameterPhase s function overrides restored params es') :
      ParameterPhase s function overrides restored (p :: params) (es ++ es')

/-- The questions about saving answers under a name for which there is a suggestion, the path that
    is written, and the files then. -/
inductive SavePhase (s : Setup) (signature : Signature) (saved : Saved) (suggestion : String)
    (files : FileTree) : List Exchange → Option String → FileTree → Prop
  | off (h : s.enableSaves = false) : SavePhase s signature saved suggestion files [] none files
  | declined {es : List Exchange} (hsaves : s.enableSaves = true)
      (hno : Asked (.save signature.name)
        ((Question.save signature.name).decision s.functions) es false) :
      SavePhase s signature saved suggestion files es none files
  | written {es es' : List Exchange} {path : String} {files' : FileTree}
      (hsaves : s.enableSaves = true)
      (hyes : Asked (.save signature.name)
        ((Question.save signature.name).decision s.functions) es true)
      (hname : Rounds (.newName signature.name suggestion)
        (s.writing signature saved (.newName signature.name suggestion)) files es' path files') :
      SavePhase s signature saved suggestion files (es ++ es') (some path) files'

/-- A run of questions from one session to another: questions about restoring, then questions for
    parameters, then questions about saving. -/
def Protocol (s : Setup) (signature : Signature) (overrides : Arguments) (known : String → Bool)
    (σ τ : Session) (c : Collection) : Prop :=
  ∃ restoring asking saving restored, σ.Exchanges τ (restoring ++ asking ++ saving)
    ∧ s.RestorePhase signature overrides known σ.files restoring (restored, c.restoredFrom)
    ∧ s.ParameterPhase signature.name overrides restored signature.params asking
    ∧ s.SavePhase signature ⟨c.tokens⟩ (c.restoredFrom.getD signature.name) σ.files saving c.savedTo
      τ.files

/-! ### What is asked -/

/-- A question for a value is put until an answer fits. -/
theorem ask_asked {q : Question} {given : Given} {σ τ : Session}
    (h : (s.ask q).run σ = .ok given τ) :
    ∃ es, σ.Exchanges τ es ∧ Asked q (fun answer => (s.judge q answer).toOption) es given := by
  obtain ⟨answers, events, hputs, hanswers, hevents⟩ := Dialogue.put_run_eq_ok.mp h
  exact ⟨_, hputs.exchanges hanswers hevents, hputs.asked⟩

/-- A decision is asked for until an answer has a truth value. -/
theorem confirm_asked {q : Question} (htype : q.type = .bool)
    (hdefault : ∀ v, q.default = some v → q.type.accepts v = true) {yes : Bool} {σ τ : Session}
    (h : (s.confirm q).run σ = .ok yes τ) :
    ∃ es, σ.Exchanges τ es ∧ Asked q (q.decision s.functions) es yes := by
  obtain ⟨given, hask, rfl⟩ := confirm_run_eq_ok.mp h
  obtain ⟨es, hes, hasked⟩ := ask_asked hask
  exact ⟨es, hes, hasked.map (judge_decision htype hdefault)⟩

/-- The name of a configuration is asked for until one is given that is kept. -/
theorem chooseSaved_asked {name : String} {σ τ : Session}
    (h : (s.chooseSaved signature σ.files).run σ = .ok name τ) :
    ∃ es, σ.Exchanges τ es ∧ Asked (s.savedNameQuestion signature σ.files)
      (fun answer => ((s.savedNameQuestion signature σ.files).filename s.functions answer).filter
        (s.isKept signature σ.files)) es name := by
  obtain ⟨answers, events, hputs, hanswers, hevents⟩ := Dialogue.put_run_eq_ok.mp h
  have hasked := hputs.asked
  simp only [judgeSavedName_toOption] at hasked
  exact ⟨_, hputs.exchanges hanswers hevents, hasked⟩

/-- Loading asks nothing. -/
theorem tryLoad_run_eq_ok {name : String} {restored : List (String × Given) × Option String}
    {σ τ : Session} (h : (s.tryLoad signature overrides name).run σ = .ok restored τ) :
    restored = loaded name (s.load signature overrides (s.store signature) σ.files name)
      ∧ τ.files = σ.files ∧ σ.Exchanges τ [] := by
  cases hload : s.load signature overrides (s.store signature) σ.files name with
  | ok values =>
    rw [tryLoad_run_ok hload] at h
    cases h
    exact ⟨rfl, rfl, Session.Exchanges.refl σ⟩
  | error fault =>
    cases hcrash : fault.isCrash with
    | true =>
      rw [tryLoad_run_crashed hload hcrash] at h
      cases h
    | false =>
      rw [tryLoad_run_failed hload hcrash] at h
      cases h
      exact ⟨rfl, rfl, Session.Exchanges.reported σ _⟩

/-- Restoring goes through its phase, and leaves files alone. -/
theorem restore_asked {restored : List (String × Given) × Option String} {σ τ : Session}
    (hsaves : s.enableSaves = true)
    (h : (s.restore signature overrides).run σ = .ok restored τ) :
    τ.files = σ.files ∧ ∃ es, σ.Exchanges τ es
      ∧ s.RestorePhase signature overrides (s.isKept signature σ.files) σ.files es restored := by
  rw [restore_run_eq] at h
  split at h
  · rename_i hlist
    obtain ⟨rfl, rfl⟩ := Dialogue.run_pure_eq_ok.mp h
    exact ⟨rfl, [], Session.Exchanges.refl σ, .nothing hsaves hlist⟩
  · rename_i hlist
    obtain ⟨yes, ρ, hconfirm, h⟩ := Dialogue.run_bind_eq_ok.mp h
    obtain ⟨es, hes, hdecision⟩ := confirm_asked rfl (by rintro v ⟨⟩; rfl) hconfirm
    have hfiles := confirm_files hconfirm
    cases yes with
    | false =>
      obtain ⟨rfl, rfl⟩ := Dialogue.run_pure_eq_ok.mp h
      exact ⟨hfiles, es, hes, .declined hsaves hlist hdecision⟩
    | true =>
      obtain ⟨name, ρ', hchoose, hload⟩ := Dialogue.run_bind_eq_ok.mp h
      -- the decision has left the files, so the names are those of the beginning
      rw [← hfiles] at hchoose
      obtain ⟨es', hes', hname⟩ := chooseSaved_asked hchoose
      rw [hfiles] at hname
      have hfiles' := (chooseSaved_files hchoose).trans hfiles
      obtain ⟨rfl, hsame, hnone⟩ := tryLoad_run_eq_ok hload
      refine ⟨hsame.trans hfiles', es ++ es', ?_, ?_⟩
      · simpa using (hes.trans hes').trans hnone
      · rw [hfiles']
        exact .chosen hsaves hlist hdecision hname

/-- A parameter that is not overridden is asked for unless it is internal or restored. -/
theorem collectOne_asked {function : String} {restored : List (String × Given)} {p : Parameter}
    {given : Option Given} {σ τ : Session}
    (hdefault : ∀ v, p.default = some v → p.type.accepts v = true)
    (h : (s.collectOne function restored p).run σ = .ok given τ) :
    (!p.isInternal && (restored.lookup p.name).isNone) = false ∧ σ = τ
      ∨ (!p.isInternal && (restored.lookup p.name).isNone) = true ∧ τ.files = σ.files
        ∧ ∃ es v, σ.Exchanges τ es ∧ Asked (.ofParameter function p)
          ((Question.ofParameter function p).fitting s.functions) es v := by
  -- Nothing is asked for an internal or a restored parameter.
  unfold collectOne at h
  by_cases hinternal : p.isInternal = true
  · rw [if_pos hinternal] at h
    exact Or.inl ⟨by simp [hinternal], (Dialogue.run_pure_eq_ok.mp h).2⟩
  · rw [if_neg hinternal] at h
    cases hlookup : restored.lookup p.name with
    | some value =>
      rw [hlookup] at h
      exact Or.inl ⟨by simp, (Dialogue.run_pure_eq_ok.mp h).2⟩
    | none =>
      rw [hlookup] at h
      obtain ⟨value, hask, -⟩ := Dialogue.run_map_eq_ok.mp h
      obtain ⟨es, hes, hasked⟩ := ask_asked hask
      exact Or.inr ⟨by simp [hinternal], ask_files hask, es, _, hes,
        hasked.map (judge_toOption hdefault)⟩

/-- The parameters that are asked for are those that have no value yet. -/
theorem collectFrom_asked {function : String} {restored : List (String × Given)}
    {params : List Parameter} {c c' : Collection} {σ τ : Session}
    (hdefault : ∀ p ∈ params, ∀ v, p.default = some v → p.type.accepts v = true)
    (h : (s.collectFrom function overrides restored params c).run σ = .ok c' τ) :
    τ.files = σ.files ∧ ∃ es, σ.Exchanges τ es
      ∧ s.ParameterPhase function overrides restored params es := by
  induction params generalizing c σ with
  | nil =>
    obtain ⟨-, rfl⟩ := Dialogue.run_pure_eq_ok.mp h
    exact ⟨rfl, [], Session.Exchanges.refl σ, .done⟩
  | cons p params ih =>
    have hrest {c : Collection} {ρ : Session} := ih (c := c) (σ := ρ)
      fun p hp => hdefault p (List.mem_cons_of_mem _ hp)
    rw [collectFrom] at h
    by_cases hoverridden : overrides.contains p.name = true
    · rw [if_pos hoverridden] at h
      obtain ⟨hfiles, es, hes, hparams⟩ := hrest h
      exact ⟨hfiles, es, hes, .skipped (by simp [isAsked, hoverridden]) hparams⟩
    · rw [if_neg hoverridden] at h
      obtain ⟨given, ρ, hone, h⟩ := Dialogue.run_bind_eq_ok.mp h
      -- The rest is the same from any collection, with or without a value for `p`.
      obtain ⟨hfiles, es, hes, hparams⟩ : τ.files = ρ.files ∧ ∃ es, ρ.Exchanges τ es
          ∧ s.ParameterPhase function overrides restored params es := by
        cases given <;> exact hrest h
      rcases collectOne_asked (hdefault p List.mem_cons_self) hone with
        ⟨hskip, rfl⟩ | ⟨hasks, hsame, first, v, hfirst, hv⟩
      · exact ⟨hfiles, es, hes, .skipped (by rw [isAsked, hskip, Bool.and_false]) hparams⟩
      · exact ⟨hfiles.trans hsame, first ++ es, hfirst.trans hes,
          .asked (by simp [isAsked, hoverridden, hasks]) hv hparams⟩

/-- Saving goes through its phase, and leaves the files that this tells. -/
theorem save_asked {c : Collection} {written : Option String} {σ τ : Session}
    (hsaves : s.enableSaves = true) (h : (s.save signature c).run σ = .ok written τ) :
    ∃ es, σ.Exchanges τ es ∧ s.SavePhase signature ⟨c.tokens⟩
      (c.restoredFrom.getD signature.name) σ.files es written τ.files := by
  unfold save at h
  obtain ⟨yes, ρ, hconfirm, h⟩ := Dialogue.run_bind_eq_ok.mp h
  obtain ⟨es, hes, hdecision⟩ := confirm_asked rfl (by rintro v ⟨⟩; rfl) hconfirm
  have hfiles := confirm_files hconfirm
  -- Declining ends the phase, while accepting goes on with the question for a name.
  cases yes with
  | false =>
    obtain ⟨rfl, rfl⟩ := Dialogue.run_pure_eq_ok.mp h
    rw [hfiles]
    exact ⟨es, hes, .declined hsaves hdecision⟩
  | true =>
    obtain ⟨path, hput, rfl⟩ := Dialogue.run_map_eq_ok.mp h
    obtain ⟨answers, events, hputs, hanswers, hevents⟩ := Dialogue.put_run_eq_ok.mp hput
    refine ⟨_, hes.trans (hputs.exchanges hanswers hevents), .written hsaves hdecision ?_⟩
    have hjudge : s.writing signature ⟨c.tokens⟩
        (.newName signature.name (c.restoredFrom.getD signature.name)) = _ :=
      funext fun files => funext fun answer => judgeNewName_toOption ⟨c.tokens⟩ _ files answer
    rw [hjudge, ← hfiles]
    exact hputs.rounds

/-- **The order of the questions.** A run of questions that has a result asks about restoring, then
    for parameters, and then about saving. -/
theorem collect_protocol {name : String} {steps : List Signature.Step}
    (hbuild : Signature.build name steps = .ok signature) {c : Collection} {σ τ : Session}
    (h : (s.collect signature overrides).run σ = .ok c τ) :
    s.Protocol signature overrides (s.isKept signature σ.files) σ τ c := by
  have hwell := (Signature.build_wellFormed hbuild).1
  rw [collect_eq] at h
  obtain ⟨restored, ρ, hrestore, h⟩ := Dialogue.run_bind_eq_ok.mp h
  obtain ⟨c', ρ', hfrom, hsave⟩ := Dialogue.run_bind_eq_ok.mp h
  have hkeeps := (collectFrom_keeps hfrom).1
  obtain ⟨hfiles', asking, hasking, hparams⟩ := collectFrom_asked hwell.accepted hfrom
  cases hsaves : s.enableSaves with
  | false =>
    rw [hsaves, if_neg Bool.false_ne_true] at hrestore hsave
    obtain ⟨rfl, rfl⟩ := Dialogue.run_pure_eq_ok.mp hrestore
    obtain ⟨rfl, rfl⟩ := Dialogue.run_pure_eq_ok.mp hsave
    have hnone : c'.savedTo = none := (collectFrom_keeps hfrom).2
    refine ⟨[], asking, [], [], by simpa using hasking, ?_, hparams, ?_⟩
    · rw [hkeeps]
      exact .off hsaves
    · rw [hnone, hfiles']
      exact .off hsaves
  | true =>
    rw [hsaves, if_pos rfl] at hrestore hsave
    obtain ⟨hfiles, restoring, hrestoring, hphase⟩ := restore_asked hsaves hrestore
    obtain ⟨written, ρ'', hwritten, hpure⟩ := Dialogue.run_bind_eq_ok.mp hsave
    obtain ⟨rfl, rfl⟩ := Dialogue.run_pure_eq_ok.mp hpure
    obtain ⟨saving, hsaving, hsaved⟩ := save_asked hsaves hwritten
    -- Nothing but saving changes files, so it starts with those of the beginning.
    rw [hfiles', hfiles] at hsaved
    refine ⟨restoring, asking, saving, restored.1,
      (hrestoring.trans hasking).trans hsaving, ?_, hparams, hsaved⟩
    rw [show c'.restoredFrom = restored.2 from hkeeps]
    exact hphase

/-- A run of questions in which a value is restored, another one is asked for, and nothing is
    saved. -/
theorem collect_protocol_restored :
    ∃ signature c τ,
      Signature.build "f" [.param "n" "int" none, .param "m" "int" none] = .ok signature
      ∧ (Setup.collect ⟨[], ⟨0⟩, true, "."⟩ signature Arguments.empty).run
          ⟨["True", "'a'", "x", "2", "False"],
            Store.single "function = 'f'\n[values]\nn = '5'\n", []⟩ = .ok c τ
      ∧ c.restoredFrom = some "a"
      ∧ Setup.Protocol ⟨[], ⟨0⟩, true, "."⟩ signature Arguments.empty
          (Setup.isKept ⟨[], ⟨0⟩, true, "."⟩ signature
            (Store.single "function = 'f'\n[values]\nn = '5'\n"))
          ⟨["True", "'a'", "x", "2", "False"],
            Store.single "function = 'f'\n[values]\nn = '5'\n", []⟩ τ c := by
  obtain ⟨signature, hsignature⟩ : ∃ signature : Signature, signature = ⟨"f", none,
      [⟨"n", .int, none, none⟩, ⟨"m", .int, none, none⟩]⟩ := ⟨_, rfl⟩
  have hbuild : Signature.build "f" [.param "n" "int" none, .param "m" "int" none]
      = .ok signature := by
    rw [hsignature]
    rfl
  obtain ⟨σ, hσ⟩ : ∃ σ : Session, σ = ⟨["True", "'a'", "x", "2", "False"],
      Store.single "function = 'f'\n[values]\nn = '5'\n", []⟩ := ⟨_, rfl⟩
  -- The answers are those of the phases, one after the other: restoring, a parameter, saving.
  have hanswers : σ.answers = [] ++ "True" :: ([] ++ "'a'" :: ["x", "2", "False"]) := by
    rw [hσ]
    rfl
  have hkeeps : (Setup.store ⟨[], ⟨0⟩, true, "."⟩ signature).Keeps σ.files "a" ⟨[("n", "5")]⟩ := by
    have hread : Saved.read "f" "function = 'f'\n[values]\nn = '5'\n" = .ok ⟨[("n", "5")]⟩ := by
      decide +kernel
    rw [hσ, hsignature]
    exact Store.keeps_single hread
  have hload : Setup.loadAll ⟨[], ⟨0⟩, true, "."⟩ Arguments.empty ⟨[("n", "5")]⟩ signature.params
      = .ok [("n", ⟨.int 5, some "5"⟩)] := by
    rw [hsignature]
    rfl
  obtain ⟨⟨answers, files, events⟩, hrestore, rfl, -⟩ := restore_run hanswers
    (by simp [Refused]) rfl (by simp [Refused]) (judgeRestored_accepted rfl hkeeps (.inl rfl))
    hkeeps hload
  have hrun := collect_run_of_restore rfl hrestore
  obtain ⟨c, τ, hrest⟩ : ∃ c τ, (Setup.collectRest ⟨[], ⟨0⟩, true, "."⟩ signature Arguments.empty
      ([("n", ⟨.int 5, some "5"⟩)], some "a")).run ⟨["x", "2", "False"], files, events⟩
        = .ok c τ := by
    rw [hsignature]
    exact ⟨_, _, rfl⟩
  rw [hrest] at hrun
  have hprotocol := collect_protocol hbuild hrun
  rw [hσ] at hrun hprotocol
  exact ⟨signature, c, τ, hbuild, hrun, collectRest_restoredFrom hrest, hprotocol⟩

/-- An answer with the value of a configuration whose path leads to no file is refused. -/
theorem judgeRestored_unkept {files : FileTree} {name answer : String}
    (hcheck : Filename.check (.str name) = .ok name)
    (heval : Answer.evaluate s.functions answer = .ok (.str name))
    (hfile : files.isFile ((s.store signature).pathFor name) = false) :
    s.judgeRestored signature files answer
      = .refused (s.error "There exists no file with the given filename.") := by
  simp [judgeRestored, judgeSavedName, readName, read_evaluate _ heval, Judgment.bind, hcheck,
    hfile]

/-- Where restoring is answered by yes and a known name, just that can have been restored. -/
theorem Protocol.restoredFrom_eq {known : String → Bool} {σ τ : Session} {c : Collection}
    {yes choice name other : String} {rest : List String}
    (h : s.Protocol signature overrides known σ τ c) (hanswers : σ.answers = yes :: choice :: rest)
    (hyes : Answer.evaluate s.functions yes = .ok (.bool true))
    (hchoice : Answer.evaluate s.functions choice = .ok (.str name))
    (hcheck : Filename.check (.str name) = .ok name) (hknown : known name = true)
    (hrestored : c.restoredFrom = some other) : other = name := by
  obtain ⟨restoring, asking, saving, restored, hes, hphase, -, -⟩ := h
  have hall := hes.answers
  rw [hanswers] at hall
  generalize hpair : (restored, c.restoredFrom) = pair at hphase
  rw [hrestored] at hpair
  cases hphase with
  | off _ => cases hpair
  | nothing _ _ => cases hpair
  | declined _ _ _ => cases hpair
  | @chosen es es' chosen _ _ hdecided hnamed =>
    have hdecision : (Question.restore signature.name).decision s.functions yes = some true := by
      rw [Question.decision, Question.valueOf_evaluate _ hyes]
      rfl
    have htaken : (((s.savedNameQuestion signature σ.files).filename s.functions choice).filter
        known) = some name := by
      rw [Question.filename, Question.valueOf_evaluate _ hchoice]
      simp [hcheck, Except.toOption, Option.filter, hknown]
    -- `yes` is taken for the decision, so that `choice` is the first answer to the next question.
    simp only [List.map_append, List.append_assoc] at hall
    obtain ⟨-, hmore⟩ := hdecided.of_taken hall.symm hdecision
    obtain ⟨rfl, -⟩ := hnamed.of_taken hmore htaken
    cases hload : s.load signature overrides (s.store signature) σ.files chosen with
    | ok values =>
      rw [hload] at hpair
      cases hpair
      rfl
    | error fault =>
      rw [hload] at hpair
      cases hpair

/-- Where the path of a configuration that is listed is too long, its name is refused, and another
    one can be restored. -/
theorem collect_pair (overrides : Arguments) (hfunctions : s.functions = [])
    (hsaves : s.enableSaves = true)
    (hstore : s.store signature = Store.below (Path.detour 2041 ".") "f")
    (hwell : signature.WellFormed) (hparams : signature.params = []) {σ : Session}
    (hanswers : σ.answers = ["True", "'bb'", "'a'", "False"]) (hfiles : σ.files = Store.pair) :
    ∃ c τ, (s.collect signature overrides).run σ = .ok c τ ∧ c.restoredFrom = some "a" := by
  -- The file of `bb` is in the list, and its path is too long to be opened.
  have hlong : σ.files.isFile ((s.store signature).pathFor "bb") = false := by
    rw [hfiles, hstore]
    exact Store.isFile_pair (by decide)
  have hkeeps : (s.store signature).Keeps σ.files "a" ⟨Givens.tokens []⟩ := by
    rw [hfiles, hstore]
    exact Store.keeps_pair (by decide)
  have hrefused : Refused (s.judgeRestored signature σ.files) ["'bb'"] := by
    intro x hx
    obtain rfl := List.mem_singleton.mp hx
    exact ⟨_, judgeRestored_unkept rfl (by rw [hfunctions]; rfl) hlong⟩
  have hrestoring : s.RestoringAnswers signature σ.files "a" σ.answers := by
    rw [hanswers]
    refine ⟨[], "True", ["'bb'"], "'a'", [], "False", [], rfl, by simp [Refused], ?_, hrefused,
      .inl ?_, by simp [Refused], ?_⟩ <;> rw [hfunctions] <;> rfl
  have hkeys : ([] : Givens).map (·.1)
      = signature.params.filter (fun p => !overrides.contains p.name) := by
    rw [hparams]
    rfl
  obtain ⟨c, τ, hrun, -, hrestored, -⟩ :=
    collect_restored hwell hsaves hkeys (by simp) rfl hkeeps hrestoring
  exact ⟨c, τ, hrun, hrestored⟩

/-- It is not so that every name is taken that is listed. -/
theorem collect_unkept :
    ∃ c τ, Signature.build "f" [] = .ok ⟨"f", none, []⟩
      ∧ (Setup.collect ⟨[], ⟨0⟩, true, Path.detour 2041 "."⟩ ⟨"f", none, []⟩ Arguments.empty).run
          ⟨["True", "'bb'", "'a'", "False"], Store.pair, []⟩ = .ok c τ
      ∧ ¬ Setup.Protocol ⟨[], ⟨0⟩, true, Path.detour 2041 "."⟩ ⟨"f", none, []⟩ Arguments.empty
          (fun name => ((Setup.store ⟨[], ⟨0⟩, true, Path.detour 2041 "."⟩
            ⟨"f", none, []⟩).list Store.pair).contains name)
          ⟨["True", "'bb'", "'a'", "False"], Store.pair, []⟩ τ c := by
  have hbuild : Signature.build "f" [] = .ok ⟨"f", none, []⟩ := rfl
  obtain ⟨s, hs⟩ : ∃ s : Setup, s = ⟨[], ⟨0⟩, true, Path.detour 2041 "."⟩ := ⟨_, rfl⟩
  obtain ⟨signature, hsignature⟩ : ∃ signature : Signature, signature = ⟨"f", none, []⟩ := ⟨_, rfl⟩
  rw [← hs]
  rw [← hsignature] at hbuild ⊢
  have hfunctions : s.functions = [] := by rw [hs]
  have hstore : s.store signature = Store.below (Path.detour 2041 ".") "f" := by
    rw [hs, hsignature]
    rfl
  obtain ⟨c, τ, hrun, hrestored⟩ := collect_pair Arguments.empty
    (σ := ⟨["True", "'bb'", "'a'", "False"], Store.pair, []⟩) hfunctions (by rw [hs]) hstore
    (Signature.build_wellFormed hbuild).1 (by rw [hsignature]) rfl rfl
  refine ⟨c, τ, hbuild, hrun, fun h => ?_⟩
  have hlisted : ((s.store signature).list Store.pair).contains "bb" = true := by
    rw [hstore]
    -- Nevertheless it is listed, and the protocol would have restored from it.
    exact List.contains_iff_mem.mpr (Store.mem_pair (by decide) (.inr rfl))
  have heq := h.restoredFrom_eq rfl (by rw [hfunctions]; rfl) (by rw [hfunctions]; rfl) rfl
    hlisted hrestored
  exact absurd heq (by decide)

end Setup

end Questionnaire
