import Questionnaire.Proofs.Keyed
import Questionnaire.Proofs.Session.Exchange
import Questionnaire.Proofs.Session.Parallel

namespace Questionnaire

/-!
# How runs of questions end

Whatever the files hold and whatever is answered, a run of questions goes on until it has a result,
or until a question finds no answer.

* `Dialogue.EndsForWant` — a part of a session that ends early only where an answer is missing.
* `Setup.judge_crashed`, `Setup.load_crashed` — what breaks a session off.
* `Setup.collect_run_ends` — a run of questions takes one answer for each question.
* `Setup.collect_ends` — only a missing answer ends it early, and further answers change nothing.
-/

open Questionnaire.Text (trimmed)

variable {α β : Type}

/-! ### Missing answers -/

namespace Dialogue

/-- The session in which a part ends, with a result or without one. -/
def final : EStateM.Result Stop Session α → Session
  | .ok _ τ => τ
  | .error _ τ => τ

/-- A part ends without a result. -/
def stops (x : Dialogue α) (σ : Session) : Bool :=
  match x.run σ with
  | .ok _ _ => false
  | .error _ _ => true

/-- The number of questions that a part puts. -/
def asked (x : Dialogue α) (σ : Session) : Nat :=
  (final (x.run σ)).questions.length - σ.questions.length

/-- The number of answers that a part uses. -/
def used (x : Dialogue α) (σ : Session) : Nat :=
  σ.answers.length - (final (x.run σ)).answers.length

/-- From a session, a part ends without a result only where an answer is missing. -/
structure EndsForWant (x : Dialogue α) (σ : Session) : Prop where
  /-- With a result, every question has taken one answer. -/
  done : ∀ a τ, x.run σ = .ok a τ → ∃ es, σ.Exchanges τ es
  /-- Without one, it has stopped at a question that was put when all answers had been used. -/
  stopped : ∀ stop τ, x.run σ = .error stop τ → ∃ q ρ es, stop = .unanswered q
    ∧ σ.Exchanges ρ es ∧ ρ.answers = [] ∧ τ = ρ.note (.asked q)
  stops_iff : stops x σ = true ↔ σ.answers.length < asked x σ
  counts : asked x σ = used x σ + if stops x σ then 1 else 0
  /-- Further answers change nothing, and are left. -/
  unread : ∀ a τ, x.run σ = .ok a τ → ∀ more, x.run { σ with answers := σ.answers ++ more }
    = .ok a { τ with answers := τ.answers ++ more }

/-- A part that ends with a result has had all the answers that it wants. -/
theorem EndsForWant.of_ok {x : Dialogue α} {a : α} {σ τ : Session} {es : List Exchange}
    (hrun : x.run σ = .ok a τ) (hes : σ.Exchanges τ es) (hsame : ∀ l, Parallel l Eq Eq x) :
    EndsForWant x σ := by
  -- With as many questions as answers in the exchanges, all that is claimed is arithmetic.
  have hanswers := congrArg List.length hes.answers
  have hquestions := congrArg List.length hes.questions
  simp only [List.length_append, List.length_map] at hanswers hquestions
  refine ⟨?_, ?_, ?_, ?_, ?_⟩
  · intro b ρ hb
    rw [hrun] at hb
    cases hb
    exact ⟨es, hes⟩
  · intro stop ρ hstop
    rw [hrun] at hstop
    cases hstop
  · simp only [stops, asked, hrun, final, Bool.false_eq_true, false_iff]
    omega
  · simp only [stops, asked, used, hrun, final, Bool.false_eq_true, if_false]
    omega
  · intro b ρ hb more
    exact Parallel.unread hsame hb more

/-- A part that stops at a question wants an answer. -/
theorem EndsForWant.of_unanswered {x : Dialogue α} {q : Question} {σ ρ : Session}
    {es : List Exchange} (hrun : x.run σ = .error (.unanswered q) (ρ.note (.asked q)))
    (hes : σ.Exchanges ρ es) (hnone : ρ.answers = []) : EndsForWant x σ := by
  -- One question more than there are answers: the last one, which is asked and not answered.
  have hanswers := congrArg List.length hes.answers
  have hquestions := congrArg List.length hes.questions
  have hlast := Session.questions_asked ρ q
  have hleft : (ρ.note (.asked q)).answers = [] := hnone
  simp only [List.length_append, List.length_map, hnone, List.length_nil] at hanswers hquestions
  refine ⟨?_, ?_, ?_, ?_, ?_⟩
  · intro a τ ha
    rw [hrun] at ha
    cases ha
  · intro stop τ hstop
    rw [hrun] at hstop
    cases hstop
    exact ⟨q, ρ, es, rfl, hes, hnone, rfl⟩
  · simp only [stops, asked, hrun, final, hlast, List.length_append, List.length_singleton,
      true_iff]
    omega
  · simp only [stops, asked, used, hrun, final, hlast, hleft, List.length_append,
      List.length_singleton, List.length_nil, if_true]
    omega
  · intro a τ ha
    rw [hrun] at ha
    cases ha

/-- Where nothing breaks it off, a part that accounts for its answers ends only for want of one. -/
theorem Ends.forWant {x : Dialogue α} {breaks : String → Prop} {blame : FileTree → Prop}
    {σ : Session} (hends : Ends breaks blame σ (x.run σ)) (hsame : ∀ l, Parallel l Eq Eq x)
    (hblame : ¬ blame σ.files) (hbreaks : ∀ answer ∈ σ.answers, ¬ breaks answer) :
    EndsForWant x σ := by
  cases hrun : x.run σ with
  | ok a τ =>
    rw [hrun] at hends
    obtain ⟨es, hes⟩ := hends
    exact .of_ok hrun hes hsame
  | error stop τ =>
    rw [hrun] at hends
    cases stop with
    | crashed =>
      -- nothing is there to break it off
      rcases hends with hblamed | ⟨answer, hmem, hanswer⟩
      · exact absurd hblamed hblame
      · exact absurd hanswer (hbreaks answer hmem)
    | unanswered q =>
      obtain ⟨ρ, es, hes, hnone, rfl⟩ := hends
      exact .of_unanswered hrun hes hnone

end Dialogue

namespace Setup

open Dialogue (Accounts Ends EndsForWant)

variable {s : Setup}

/-! ### What breaks a session off -/

/-- The evaluation of an answer breaks off. -/
def Breaks (s : Setup) (answer : String) : Prop :=
  Answer.evaluate s.functions answer = .error .crash

/-- A configuration under one of these names holds an answer whose evaluation breaks off. -/
def SavedBreaks (s : Setup) (signature : Signature) (names : List String) (files : FileTree) :
    Prop :=
  ∃ name ∈ names, ∃ saved, (s.store signature).restore files name = .ok saved
    ∧ ∃ key answer, (key, answer) ∈ saved.values ∧ s.Breaks answer

/-- The configurations that can be chosen: those that are listed under a name that passes the
    check. -/
def choices (s : Setup) (signature : Signature) (files : FileTree) : List String :=
  ((s.store signature).list files).filter fun name => Filename.check (.str name) = .ok name

/-- What breaks a session off in one of the choices does so in one of the listed configurations. -/
theorem SavedBreaks.of_choices {signature : Signature} {files : FileTree}
    (h : s.SavedBreaks signature (s.choices signature files) files) :
    s.SavedBreaks signature ((s.store signature).list files) files := by
  obtain ⟨name, hname, hbreaks⟩ := h
  exact ⟨name, List.mem_of_mem_filter hname, hbreaks⟩

/-- Reading an answer breaks off only where its evaluation does. -/
theorem read_crashed {q : Question} {answer : String} (h : s.read q answer = .crashed) :
    s.Breaks answer := by
  unfold read at h
  dsimp only at h
  split at h
  · split at h <;> cases h
  · split at h
    · cases h
    · cases h
    · rename_i hattempt
      unfold Answer.attempt at hattempt
      split at hattempt
      · cases hattempt
      · rename_i hcrash
        rw [Breaks, ← Answer.evaluate_trimmed]
        exact hcrash
      · cases hattempt

/-- Judging an answer breaks off only where its evaluation does. -/
theorem judge_crashed {q : Question} {answer : String} (h : s.judge q answer = .crashed) :
    s.Breaks answer := by
  rcases Judgment.bind_eq_crashed.mp h with hread | ⟨given, -, hfits⟩
  · exact read_crashed hread
  · split at hfits <;> cases hfits

/-- Reading a name in an answer breaks off only where the evaluation does. -/
theorem readName_crashed {q : Question} {answer : String} (h : s.readName q answer = .crashed) :
    s.Breaks answer := by
  rcases Judgment.bind_eq_crashed.mp h with hread | ⟨given, -, hcheck⟩
  · exact read_crashed hread
  · split at hcheck <;> cases hcheck

/-- Choosing a configuration by an answer breaks off only where the evaluation does. -/
theorem judgeSavedName_crashed {store : Store} {names : List String} {q : Question}
    {files : FileTree} {answer : String}
    (h : s.judgeSavedName store names q files answer = .crashed) : s.Breaks answer := by
  rcases Judgment.bind_eq_crashed.mp h with hname | ⟨name, -, hfound⟩
  · exact readName_crashed hname
  · split at hfound <;> cases hfound

/-- Saving under the name in an answer breaks off only where the evaluation does. -/
theorem judgeNewName_crashed {store : Store} {saved : Saved} {q : Question} {files : FileTree}
    {answer : String} (h : (s.judgeNewName store saved q files answer).1 = .crashed) :
    s.Breaks answer := by
  unfold judgeNewName at h
  split at h
  · split at h <;> cases h
  · cases h
  · rename_i hname
    exact readName_crashed hname

/-- Loading a saved answer breaks off only where its evaluation does. -/
theorem loadAnswer_crashed {p : Parameter} {answer : String} {fault : LoadFault}
    (h : s.loadAnswer p answer = .error fault) (hcrash : fault.isCrash = true) :
    s.Breaks answer := by
  unfold loadAnswer at h
  dsimp only at h
  split at h
  · -- a value of another type breaks nothing off
    split at h
    · cases h
    · cases h
      cases hcrash
  · assumption
  · rename_i cause hno hcause
    split at h
    · cases h
    · cases h
      cases cause with
      | crash => exact absurd rfl hno
      | _ => cases hcrash

/-- Loading a parameter breaks off only at a saved answer. -/
theorem loadParameter_crashed {saved : Saved} {p : Parameter} {fault : LoadFault}
    (h : s.loadParameter saved p = .error fault) (hcrash : fault.isCrash = true) :
    ∃ key answer, (key, answer) ∈ saved.values ∧ s.Breaks answer := by
  unfold loadParameter at h
  split at h
  · rename_i answer hanswer
    exact ⟨p.name, answer, Keyed.mem_of_lookup hanswer,
      loadAnswer_crashed (Except.map_eq_error.mp h) hcrash⟩
  · cases h

/-- Loading all parameters does so at one of the saved answers. -/
theorem loadAll_crashed {overrides : Arguments} {saved : Saved} {params : List Parameter}
    {fault : LoadFault} (h : s.loadAll overrides saved params = .error fault)
    (hcrash : fault.isCrash = true) :
    ∃ key answer, (key, answer) ∈ saved.values ∧ s.Breaks answer := by
  -- The induction is on the parameters, since the loading stops at the first one that fails.
  induction params with
  | nil => cases h
  | cons p params ih =>
    rw [loadAll] at h
    split at h
    · exact ih h
    · rcases Except.bind_eq_error.mp h with hfirst | ⟨given, -, h⟩
      · exact loadParameter_crashed hfirst hcrash
      · rcases Except.bind_eq_error.mp h with hrest | ⟨more, -, h⟩
        · exact ih hrest
        · cases h

/-- Loading breaks off only at an answer in the configuration. -/
theorem load_crashed {signature : Signature} {overrides : Arguments} {files : FileTree}
    {name : String} {fault : LoadFault}
    (h : s.load signature overrides (s.store signature) files name = .error fault)
    (hcrash : fault.isCrash = true) : s.SavedBreaks signature [name] files := by
  rcases Except.bind_eq_error.mp h with hread | ⟨saved, hsaved, hall⟩
  · obtain ⟨cause, -, rfl⟩ := Except.mapError_eq_error.mp hread
    cases hcrash
  · exact ⟨name, by simp, saved, Except.mapError_eq_ok.mp hsaved, loadAll_crashed hall hcrash⟩

/-! ### One answer for each question -/

variable {blame : FileTree → Prop}

/-- A question takes one answer each time it is put, and breaks off only at one of these. -/
theorem ask_accounts (q : Question) : Accounts s.Breaks blame (s.ask q) := by
  apply Accounts.put
  intro files answer h
  dsimp only at h
  exact judge_crashed h

/-- A decision takes one answer each time it is put, and breaks off only at one of these. -/
theorem confirm_accounts (q : Question) : Accounts s.Breaks blame (s.confirm q) :=
  (ask_accounts q).bind fun _ => .pure _

/-- The choice of a configuration takes one answer each time it is put, and breaks off only at one
    of these. -/
theorem chooseSaved_accounts (signature : Signature) (files : FileTree) :
    Accounts s.Breaks blame (s.chooseSaved signature files) := by
  apply Accounts.put
  intro files answer h
  dsimp only at h
  exact judgeSavedName_crashed h

/-- Loading breaks off where a saved answer does. -/
theorem tryLoad_accounts (signature : Signature) (overrides : Arguments) (name : String) :
    Accounts s.Breaks (s.SavedBreaks signature [name]) (s.tryLoad signature overrides name) := by
  -- The saved answers are evaluated here, so a crash is blamed on the files and not on an answer.
  intro σ
  cases hload : s.load signature overrides (s.store signature) σ.files name with
  | ok restored =>
    rw [tryLoad_run_ok hload]
    exact ⟨[], Session.Exchanges.refl σ⟩
  | error fault =>
    cases hcrash : fault.isCrash with
    | true =>
      rw [tryLoad_run_crashed hload hcrash]
      exact Or.inl (load_crashed hload hcrash)
    | false =>
      rw [tryLoad_run_failed hload hcrash]
      exact ⟨[], Session.Exchanges.reported σ _⟩

/-- Only a configuration that can be chosen is loaded, so only such a one breaks loading off. -/
theorem loadChosen_accounts (signature : Signature) (overrides : Arguments) (files : FileTree) :
    Accounts s.Breaks (s.SavedBreaks signature (s.choices signature files))
      (s.chooseSaved signature files >>= s.tryLoad signature overrides) := by
  apply (chooseSaved_accounts signature files).bind_blaming (tryLoad_accounts signature overrides)
  intro σ name τ hchoose hbreaks
  rw [chooseSaved_files hchoose] at hbreaks
  obtain ⟨chosen, hchosen, saved, hsaved⟩ := hbreaks
  obtain rfl := List.mem_singleton.mp hchosen
  have hchoice : chosen ∈ s.choices signature files :=
    List.mem_filter.mpr ⟨chooseSaved_mem hchoose, decide_eq_true (chooseSaved_checked hchoose)⟩
  exact ⟨chosen, hchoice, saved, hsaved⟩

/-- Restoring breaks off only where a configuration that can be chosen does. -/
theorem restore_run_ends (signature : Signature) (overrides : Arguments) (σ : Session) :
    Ends s.Breaks (s.SavedBreaks signature (s.choices signature σ.files)) σ
      ((s.restore signature overrides).run σ) := by
  rw [restore_run_eq]
  split
  · exact ⟨[], Session.Exchanges.refl σ⟩
  · refine (confirm_accounts _).bind_keeping (fun _ _ _ => confirm_files) (fun yes => ?_) σ
    split
    · exact loadChosen_accounts signature overrides σ.files
    · exact .pure _

/-- A parameter takes the answers to its question, if it is asked for, and breaks off only at one of
    these. -/
theorem collectOne_accounts (function : String) (restored : List (String × Given))
    (p : Parameter) : Accounts s.Breaks blame (s.collectOne function restored p) := by
  unfold collectOne
  split
  · exact .pure _
  · split
    · exact .pure _
    · exact (ask_accounts _).map some

/-- The parameters take the answers to their questions, and break off only at one of these. -/
theorem collectFrom_accounts (function : String) (overrides : Arguments)
    (restored : List (String × Given)) (params : List Parameter) (c : Collection) :
    Accounts s.Breaks (fun _ => False) (s.collectFrom function overrides restored params c) := by
  induction params generalizing c with
  | nil => exact .pure c
  | cons p params ih =>
    rw [collectFrom]
    split
    · exact ih c
    · apply (collectOne_accounts function restored p).bind
      intro given
      cases given with
      | none => exact ih c
      | some given => exact ih (c.add p.name given)

/-- Saving takes the answers to its two questions, and breaks off only at one of these. -/
theorem save_accounts (signature : Signature) (c : Collection) :
    Accounts s.Breaks (fun _ => False) (s.save signature c) := by
  apply (confirm_accounts _).bind
  intro yes
  split
  · exact (Accounts.put fun _ _ h => judgeNewName_crashed h).map some
  · exact .pure _

/-- What comes after restoring takes one answer for each question. -/
theorem collectRest_accounts (signature : Signature) (overrides : Arguments)
    (restored : List (String × Given) × Option String) :
    Accounts s.Breaks (fun _ => False) (s.collectRest signature overrides restored) := by
  apply (collectFrom_accounts _ _ _ _ _).bind
  intro c
  split
  · exact (save_accounts signature c).bind fun _ => .pure _
  · exact .pure _

/-- A run of questions takes one answer for each question.  It breaks off only where an answer
    does, be it entered or saved. -/
theorem collect_run_ends (signature : Signature) (overrides : Arguments) (σ : Session) :
    Ends s.Breaks (s.SavedBreaks signature (s.choices signature σ.files)) σ
      ((s.collect signature overrides).run σ) := by
  rw [collect_eq]
  refine Ends.bind ?_ (collectRest_accounts signature overrides) fun _ _ _ => False.elim
  split
  · exact restore_run_ends signature overrides σ
  · exact ⟨[], Session.Exchanges.refl σ⟩

/-! ### The whole run -/

/-- **Only a missing answer.** Whatever the files hold, a run of questions stops only at a question
    that finds no answer, unless an answer makes it break off.  It takes one answer for each
    question, and looks at no further ones. -/
theorem collect_ends (signature : Signature) (overrides : Arguments) {σ : Session}
    (hanswers : ∀ answer ∈ σ.answers, ¬ s.Breaks answer)
    (hsaved : ¬ s.SavedBreaks signature ((s.store signature).list σ.files) σ.files) :
    EndsForWant (s.collect signature overrides) σ :=
  (collect_run_ends signature overrides σ).forWant
    (fun _ => collect_parallel (ReadsSame.eq s signature overrides) (SavesSame.eq s signature)
      fun _ _ h => h) (fun hbreaks => hsaved hbreaks.of_choices) hanswers

/-- With a saved file that cannot be parsed, a session ends only for want of an answer. -/
theorem collect_ends_malformed :
    ∃ signature, Signature.build "f" [.param "n" "int" none] = .ok signature
      ∧ EndsForWant (Setup.collect ⟨[], ⟨0⟩, true, "."⟩ signature Arguments.empty)
        ⟨["True", "'a'", "5", "False"], Store.single "n =", []⟩ := by
  refine ⟨⟨"f", none, [⟨"n", .int, none, none⟩]⟩, rfl, collect_ends _ _ ?_ ?_⟩
  · have hvalue (answer : String) (hmem : answer ∈ ["True", "'a'", "5", "False"]) :
        (Answer.evaluate [] answer).isOk = true := by
      simp only [List.mem_cons, List.not_mem_nil, or_false] at hmem
      rcases hmem with rfl | rfl | rfl | rfl <;> rfl
    intro answer hmem hbreaks
    have hok := hvalue answer hmem
    rw [Breaks] at hbreaks
    rw [hbreaks] at hok
    cases hok
  · rintro ⟨name, hname, saved, hsaved, -⟩
    -- the only configuration that is listed cannot be read
    have hname : name ∈ (Store.below "." "f").list (Store.single "n =") := hname
    rw [Store.list_single, List.mem_singleton] at hname
    subst hname
    have hread := Store.restore_single.mp hsaved
    have hmalformed : (Saved.read "f" "n =").isOk = false := by decide +kernel
    rw [hread] at hmalformed
    cases hmalformed

end Setup

end Questionnaire
