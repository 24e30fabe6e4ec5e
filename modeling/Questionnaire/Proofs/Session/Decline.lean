import Questionnaire.Proofs.Session.Exchange
import Questionnaire.Proofs.Session.Parallel

namespace Questionnaire

/-!
# Configurations that cannot be restored

A run of questions in which a chosen configuration cannot be restored goes on as one in which
restoring has been declined.

* `Event.isNotRestored` — the report of such a configuration.
* `Setup.Gives` — answers of which the first accepted one gives a value.
* `Setup.restore_chosen`, `Setup.collect_declined` — what comes after the answers about restoring.
* `Setup.collect_not_restored` — both runs go on alike.
-/

open Questionnaire.Text (trimmed)

variable {α : Type}

/-! ### Reports -/

/-- A report starts as that of a configuration that cannot be restored. -/
def Report.startsNotRestored (r : Report) : Bool :=
  "Could not restore '".toList.isPrefixOf r.message.toList

/-- A configuration is reported that cannot be restored. -/
def Event.isNotRestored : Event → Bool
  | .reported r => r.startsNotRestored
  | _ => false

namespace Setup

variable {s : Setup} {signature : Signature} {overrides : Arguments}

/-- The report of a configuration that cannot be restored begins as such reports do. -/
theorem notRestored_starts (s : Setup) (name : String) (fault : LoadFault) :
    (s.notRestored name fault).startsNotRestored = true := by
  simp [notRestored, error, Report.error, Report.startsNotRestored, List.isPrefixOf, toString]

/-- The report of a refused answer is another one. -/
theorem read_refused {q : Question} {answer : String} {report : Report}
    (h : s.read q answer = .refused report) : report.startsNotRestored = false := by
  -- A report begins with `Could not restore` in `notRestored` alone, and reading an answer uses it
  -- nowhere.
  unfold read at h
  dsimp only at h
  split at h
  · split at h
    · cases h
    · cases h
      simp [error, Report.error, Report.startsNotRestored, List.isPrefixOf]
  · split at h
    · cases h
    · rename_i hattempt
      cases h
      unfold Answer.attempt at hattempt
      split at hattempt
      · cases hattempt
      · cases hattempt
      · cases hattempt
        simp [Answer.Fault.report, Report.startsNotRestored, List.isPrefixOf]
    · cases h

/-- The report of a refused answer does not begin like that of a configuration that cannot be
    restored. -/
theorem judge_refused {q : Question} {answer : String} {report : Report}
    (h : s.judge q answer = .refused report) : report.startsNotRestored = false := by
  rcases Judgment.bind_eq_refused.mp h with hread | ⟨given, -, hfits⟩
  · exact read_refused hread
  · split at hfits
    · cases hfits
    · cases hfits
      simp [misfit, error, Report.error, Report.startsNotRestored, List.isPrefixOf, toString]

/-- The report of a refused name does not begin like this. -/
theorem readName_refused {q : Question} {answer : String} {report : Report}
    (h : s.readName q answer = .refused report) : report.startsNotRestored = false := by
  rcases Judgment.bind_eq_refused.mp h with hread | ⟨given, -, hcheck⟩
  · exact read_refused hread
  · split at hcheck
    · cases hcheck
    · rename_i fault _
      cases hcheck
      cases fault <;> simp [error, Report.error, Filename.Fault.message, Report.startsNotRestored,
        List.isPrefixOf]

/-- The report of a refused choice does not begin like this. -/
theorem judgeRestored_refused {files : FileTree} {answer : String} {report : Report}
    (h : s.judgeRestored signature files answer = .refused report) :
    report.startsNotRestored = false := by
  rcases Judgment.bind_eq_refused.mp h with hname | ⟨name, -, hfound⟩
  · exact readName_refused hname
  · split at hfound
    · cases hfound
    · cases hfound
      simp [error, Report.error, Report.startsNotRestored, List.isPrefixOf]

/-! ### Answers about restoring -/

/-- Of these answers, the first one that is accepted gives a value, and `rest` is left then. -/
def Gives (judge : String → Judgment α) (a : α) (answers rest : List String) : Prop :=
  ∃ wrong answer, answers = wrong ++ answer :: rest ∧ Refused judge wrong
    ∧ judge answer = .accepted a

/-- A question that leaves files alone, with such answers. -/
theorem Gives.puts {judge : String → Judgment α} {a : α} {answers rest : List String}
    (h : Gives judge a answers rest) (q : Question) {files : FileTree}
    {judgeIn : FileTree → String → Judgment α × FileTree}
    (hjudge : ∀ x, judgeIn files x = (judge x, files)) :
    ∃ used events, answers = used ++ rest ∧ Dialogue.Puts q judgeIn files used events a files
      ∧ ∀ report, .reported report ∈ events → ∃ x, judge x = .refused report := by
  obtain ⟨wrong, answer, rfl, hwrong, hanswer⟩ := h
  -- The induction is on the answers that are refused before the one that is accepted.
  induction wrong with
  | nil =>
    refine ⟨[answer], [.asked q, .answered], rfl, .accepted ?_, by simp⟩
    rw [hjudge, hanswer]
  | cons x wrong ih =>
    obtain ⟨report, hreport⟩ := hwrong x List.mem_cons_self
    obtain ⟨used, events, hused, hputs, hevents⟩ :=
      ih fun y hy => hwrong y (List.mem_cons_of_mem x hy)
    have hrefused : judgeIn files x = (.refused report, files) := by rw [hjudge, hreport]
    refine ⟨x :: used, _, ?_, .refused hrefused hputs, ?_⟩
    · rw [List.cons_append, hused, List.cons_append]
    · intro other hother
      rcases List.mem_append.mp hother with hfirst | hmem
      · obtain rfl : other = report := by simpa using hfirst
        exact ⟨x, hreport⟩
      · exact hevents other hmem

/-- What happens until such answers have given their value: the question is put, and refused
    answers are reported. -/
theorem Gives.run {judge : String → Judgment α} {a : α} {answers rest : List String}
    (h : Gives judge a answers rest) (q : Question) {files : FileTree}
    {judgeIn : FileTree → String → Judgment α × FileTree}
    (hjudge : ∀ x, judgeIn files x = (judge x, files))
    (hrefused : ∀ x report, judge x = .refused report → report.startsNotRestored = false)
    (before : List Event) :
    ∃ past, (Dialogue.put q judgeIn).run ⟨answers, files, before⟩
        = .ok a ⟨rest, files, before ++ past⟩
      ∧ (∀ q' ∈ Session.questionsIn past, q' = q) ∧ past.countP Event.isNotRestored = 0 := by
  obtain ⟨used, events, hused, hputs, hevents⟩ := h.puts q hjudge
  refine ⟨events, Dialogue.put_run_eq_ok.mpr ⟨used, events, hputs, hused, rfl⟩, ?_, ?_⟩
  · rw [hputs.questions]
    simp
  · rw [List.countP_eq_zero]
    intro event hevent
    cases event with
    | reported report =>
      obtain ⟨x, hx⟩ := hevents report hevent
      simp [Event.isNotRestored, hrefused x report hx]
    | _ => simp [Event.isNotRestored]

/-- Where something is decided by yes or no. -/
theorem Gives.confirm {q : Question} {given : Given} {yes : Bool} {answers rest : List String}
    (h : Gives (s.judge q) given answers rest) (hyes : given.value = .bool yes)
    (files : FileTree) (before : List Event) :
    ∃ past, (s.confirm q).run ⟨answers, files, before⟩ = .ok yes ⟨rest, files, before ++ past⟩
      ∧ (∀ q' ∈ Session.questionsIn past, q' = q) ∧ past.countP Event.isNotRestored = 0 := by
  obtain ⟨past, hrun, hpast⟩ : ∃ past,
      (s.ask q).run ⟨answers, files, before⟩ = .ok given ⟨rest, files, before ++ past⟩
        ∧ (∀ q' ∈ Session.questionsIn past, q' = q) ∧ past.countP Event.isNotRestored = 0 :=
    h.run q (fun _ => rfl) (fun _ _ => judge_refused) before
  refine ⟨past, confirm_run_eq_ok.mpr ⟨given, hrun, ?_⟩, hpast⟩
  rw [hyes]
  rfl

/-- An answer whose value has the declared type gives it at once. -/
theorem Gives.of_evaluate {q : Question} {answer : String} {v : Value}
    (h : Answer.evaluate s.functions answer = .ok v) (htype : q.type.accepts v = true)
    (rest : List String) :
    Gives (s.judge q) ⟨v, some (trimmed answer)⟩ (answer :: rest) rest :=
  ⟨[], answer, rfl, by simp [Refused], judge_evaluate h htype⟩

/-- The name of a configuration that is kept chooses it at once. -/
theorem Gives.of_keeps {files : FileTree} {name answer : String} {saved : Saved}
    (hkeeps : (s.store signature).Keeps files name saved)
    (hcheck : Filename.check (.str name) = .ok name)
    (h : Answer.evaluate s.functions answer = .ok (.str name)) (rest : List String) :
    Gives (s.judgeRestored signature files) name (answer :: rest) rest :=
  ⟨[], answer, rfl, by simp [Refused], judgeRestored_accepted hcheck hkeeps (Or.inl h)⟩

/-- A configuration can be chosen only where there are some. -/
theorem Gives.list_ne_nil {files : FileTree} {name : String} {answers rest : List String}
    (h : Gives (s.judgeRestored signature files) name answers rest) :
    (s.store signature).list files ≠ [] := by
  obtain ⟨wrong, answer, -, -, haccepted⟩ := h
  exact List.ne_nil_of_mem (judgeSavedName_mem haccepted).1

/-! ### The two runs -/

variable {files : FileTree} {name : String} {given : Given} {answers middle rest : List String}

/-- Where restoring is declined, what comes next is collecting with nothing restored. -/
theorem collect_declined (overrides : Arguments) (hsaves : s.enableSaves = true)
    (hlist : (s.store signature).list files ≠ [])
    (hno : Gives (s.judge (.restore signature.name)) given answers rest)
    (hvalue : given.value = .bool false) (before : List Event) :
    ∃ past, (s.collect signature overrides).run ⟨answers, files, before⟩
        = (s.collectRest signature overrides ([], none)).run ⟨rest, files, before ++ past⟩
      ∧ (∀ q ∈ Session.questionsIn past, q = .restore signature.name)
      ∧ past.countP Event.isNotRestored = 0 := by
  obtain ⟨past, hconfirm, hpast⟩ := hno.confirm hvalue files before
  refine ⟨past, collect_run_of_restore hsaves ?_, hpast⟩
  rw [restore_run_eq, if_neg hlist, EStateM.run_bind, hconfirm]
  rfl

/-- Where a configuration is chosen, what comes next is loading it. -/
theorem restore_chosen (overrides : Arguments)
    (hyes : Gives (s.judge (.restore signature.name)) given answers middle)
    (hvalue : given.value = .bool true)
    (hchoice : Gives (s.judgeRestored signature files) name middle rest) (before : List Event) :
    ∃ past, (s.restore signature overrides).run ⟨answers, files, before⟩
        = (s.tryLoad signature overrides name).run ⟨rest, files, before ++ past⟩
      ∧ (∀ q ∈ Session.questionsIn past, q = .restore signature.name
        ∨ q = s.savedNameQuestion signature files)
      ∧ past.countP Event.isNotRestored = 0 := by
  -- Two questions are put, one after the other, and the events are those of both.
  obtain ⟨decided, hconfirm, hdecided, hnone⟩ := hyes.confirm hvalue files before
  obtain ⟨chosen, hchoose, hchosen, hnone'⟩ : ∃ chosen,
      (s.chooseSaved signature files).run ⟨middle, files, before ++ decided⟩
          = .ok name ⟨rest, files, before ++ decided ++ chosen⟩
        ∧ (∀ q ∈ Session.questionsIn chosen, q = s.savedNameQuestion signature files)
        ∧ chosen.countP Event.isNotRestored = 0 :=
    hchoice.run _ (fun _ => rfl) (fun _ _ => judgeRestored_refused) _
  refine ⟨decided ++ chosen, ?_, ?_, ?_⟩
  · rw [restore_run_eq, if_neg hchoice.list_ne_nil, EStateM.run_bind, hconfirm]
    dsimp only
    rw [if_pos rfl, EStateM.run_bind, hchoose, List.append_assoc]
  · intro q hq
    rw [Session.questionsIn_append] at hq
    rcases List.mem_append.mp hq with hq | hq
    · exact Or.inl (hdecided q hq)
    · exact Or.inr (hchosen q hq)
  · rw [List.countP_append, hnone, hnone']

/-- **Failed restores.** Where a chosen configuration cannot be restored, the run of questions goes
    on as one on the same files in which restoring has been declined and which has the same answers
    left.  Beforehand only questions about restoring differ, and one report. -/
theorem collect_not_restored (hsaves : s.enableSaves = true)
    (hyes : Gives (s.judge (.restore signature.name)) given answers middle)
    (hvalue : given.value = .bool true)
    (hchoice : Gives (s.judgeRestored signature files) name middle rest)
    {fault : LoadFault}
    (hload : s.load signature overrides (s.store signature) files name = .error fault)
    (hcrash : fault.isCrash = false) {given' : Given} {answers' : List String}
    (hno : Gives (s.judge (.restore signature.name)) given' answers' rest)
    (hvalue' : given'.value = .bool false) (before before' : List Event) :
    ∃ past past',
      Dialogue.EndAlike
        (Session.Link.Joins ⟨[], before ++ past ++ [.reported (s.notRestored name fault)],
          before' ++ past'⟩ Eq)
        ((s.collect signature overrides).run ⟨answers, files, before⟩)
        ((s.collect signature overrides).run ⟨answers', files, before'⟩)
      ∧ (∀ c τ, (s.collect signature overrides).run ⟨answers, files, before⟩ = .ok c τ →
        c.restoredFrom = none)
      ∧ (∀ q ∈ Session.questionsIn past, q = .restore signature.name
        ∨ q = s.savedNameQuestion signature files)
      ∧ (∀ q ∈ Session.questionsIn past', q = .restore signature.name)
      ∧ (past ++ [Event.reported (s.notRestored name fault)]).countP Event.isNotRestored = 1
      ∧ past'.countP Event.isNotRestored = 0 := by
  -- The run that restores gets as far as the fault, and the other one declines; from then on both
  -- do the same, with nothing restored.
  obtain ⟨past, hrestore, hpast, hnone⟩ := restore_chosen overrides hyes hvalue hchoice before
  have hrun := collect_run_of_restore hsaves (hrestore.trans (tryLoad_run_failed hload hcrash))
  obtain ⟨past', hrun', hpast', hnone'⟩ :=
    collect_declined overrides hsaves hchoice.list_ne_nil hno hvalue' before'
  refine ⟨past, past', ?_, ?_, hpast, hpast', ?_, hnone'⟩
  · rw [hrun, hrun']
    exact (collectRest_parallel overrides (SavesSame.eq s signature) ([], none)).endAlike rfl
      (fun _ _ h => h) ⟨by simp [Session.note], rfl, [], by simp [Session.note], by simp⟩
  · intro c τ h
    rw [hrun] at h
    exact collectRest_restoredFrom h
  · rw [List.countP_append, hnone]
    simp [Event.isNotRestored, notRestored_starts]

/-- Where the last of several saved answers does not fit, the first ones are not used. -/
theorem collect_not_restored_misfit :
    ∃ signature past past',
      Signature.build "f" [.param "n" "int" none, .param "m" "int" none] = .ok signature
      ∧ Dialogue.EndAlike (Session.Link.Joins ⟨[], past, past'⟩ Eq)
        ((Setup.collect ⟨[], ⟨0⟩, true, "."⟩ signature Arguments.empty).run
          ⟨["True", "'a'", "1", "2", "False"],
            Store.single "function = 'f'\n[values]\nn = '5'\nm = 'x'\n", []⟩)
        ((Setup.collect ⟨[], ⟨0⟩, true, "."⟩ signature Arguments.empty).run
          ⟨["False", "1", "2", "False"],
            Store.single "function = 'f'\n[values]\nn = '5'\nm = 'x'\n", []⟩)
      ∧ past.countP Event.isNotRestored = 1 ∧ past'.countP Event.isNotRestored = 0 := by
  obtain ⟨signature, hsignature⟩ : ∃ signature : Signature, signature = ⟨"f", none,
      [⟨"n", .int, none, none⟩, ⟨"m", .int, none, none⟩]⟩ := ⟨_, rfl⟩
  have hstore : Setup.store ⟨[], ⟨0⟩, true, "."⟩ signature = Store.below "." "f" := by
    rw [hsignature]
    rfl
  have hread : Saved.read "f" "function = 'f'\n[values]\nn = '5'\nm = 'x'\n"
      = .ok ⟨[("n", "5"), ("m", "x")]⟩ := by decide +kernel
  have hyes : Gives (Setup.judge ⟨[], ⟨0⟩, true, "."⟩ (.restore signature.name)) _
      ["True", "'a'", "1", "2", "False"] _ := .of_evaluate rfl rfl _
  have hchoice : Gives (Setup.judgeRestored ⟨[], ⟨0⟩, true, "."⟩ signature
      (Store.single "function = 'f'\n[values]\nn = '5'\nm = 'x'\n")) "a"
      ["'a'", "1", "2", "False"] _ :=
    .of_keeps (by rw [hstore]; exact Store.keeps_single hread) rfl rfl _
  have hload : Setup.load ⟨[], ⟨0⟩, true, "."⟩ signature Arguments.empty
      (Setup.store ⟨[], ⟨0⟩, true, "."⟩ signature)
      (Store.single "function = 'f'\n[values]\nn = '5'\nm = 'x'\n") "a"
        = .error (.answer "m" (.expression (.unboundVariable "x"))) := by
    rw [Setup.load, hstore, Store.restore_single.mpr hread, hsignature]
    rfl
  have hno : Gives (Setup.judge ⟨[], ⟨0⟩, true, "."⟩ (.restore signature.name)) _
      ["False", "1", "2", "False"] _ := .of_evaluate rfl rfl _
  obtain ⟨past, past', halike, -, -, -, hpast, hpast'⟩ :=
    collect_not_restored rfl hyes rfl hchoice hload rfl hno rfl [] []
  refine ⟨signature, _, _, ?_, halike, hpast, hpast'⟩
  rw [hsignature]
  rfl

/-- **A restore that breaks off.** Where evaluating a saved answer of a chosen configuration breaks
    off, so does the run of questions. -/
theorem collect_load_breaks (hsaves : s.enableSaves = true)
    (hyes : Gives (s.judge (.restore signature.name)) given answers middle)
    (hvalue : given.value = .bool true)
    (hchoice : Gives (s.judgeRestored signature files) name middle rest)
    {fault : LoadFault}
    (hload : s.load signature overrides (s.store signature) files name = .error fault)
    (hcrash : fault.isCrash = true) (before : List Event) :
    ∃ τ, (s.collect signature overrides).run ⟨answers, files, before⟩ = .error .crashed τ := by
  obtain ⟨past, hrestore, -, -⟩ := restore_chosen overrides hyes hvalue hchoice before
  have hbroken : (s.restore signature overrides).run ⟨answers, files, before⟩
      = .error .crashed ⟨rest, files, before ++ past⟩ :=
    hrestore.trans (tryLoad_run_crashed hload hcrash)
  refine ⟨⟨rest, files, before ++ past⟩, ?_⟩
  rw [collect_eq, if_pos hsaves, EStateM.run_bind, hbroken]

/-- Loading breaks off where the evaluation of the first answer that is looked at does. -/
theorem loadAll_breaks {saved : Saved} {p : Parameter} {params : List Parameter} {answer : String}
    (hasked : (overrides.contains p.name || p.isInternal) = false)
    (hget : saved.get? p.name = some answer)
    (hcrash : Answer.evaluate s.functions answer = .error .crash) :
    s.loadAll overrides saved (p :: params) = .error (.answer p.name .crash) := by
  have hparameter : s.loadParameter saved p = .error (.answer p.name .crash) := by
    rw [loadParameter, hget]
    dsimp only
    rw [loadAnswer, hcrash]
    rfl
  rw [loadAll, if_neg (by rw [hasked]; exact Bool.false_ne_true), hparameter]
  rfl

/-- Whether an evaluation breaks off can be decided. -/
instance : (r : Except Answer.Fault Value) → Decidable (r = .error .crash)
  | .ok _ => isFalse nofun
  | .error .blank => isFalse nofun
  | .error .openLiteral => isFalse nofun
  | .error (.expression _) => isFalse nofun
  | .error .crash => isTrue rfl

/-- An answer that cuts a character apart breaks off. -/
theorem evaluate_cut : Answer.evaluate [] "str::substring(\"é\", 1)" = .error .crash := by
  decide +kernel

/-- Where a saved answer cuts a character apart, the run of questions breaks off with the restore,
    while it has a result where restoring is declined. -/
theorem collect_restore_breaks :
    ∃ signature τ c τ',
      Signature.build "f" [.param "n" "int" none] = .ok signature
      ∧ (Setup.collect ⟨[], ⟨0⟩, true, "."⟩ signature Arguments.empty).run
          ⟨["True", "'a'", "5", "False"],
            Store.single "function = 'f'\n[values]\nn = 'str::substring(\"é\", 1)'\n", []⟩
        = .error .crashed τ
      ∧ (Setup.collect ⟨[], ⟨0⟩, true, "."⟩ signature Arguments.empty).run
          ⟨["False", "5", "False"],
            Store.single "function = 'f'\n[values]\nn = 'str::substring(\"é\", 1)'\n", []⟩
        = .ok c τ' := by
  obtain ⟨signature, hsignature⟩ : ∃ signature : Signature, signature = ⟨"f", none,
      [⟨"n", .int, none, none⟩]⟩ := ⟨_, rfl⟩
  have hstore : Setup.store ⟨[], ⟨0⟩, true, "."⟩ signature = Store.below "." "f" := by
    rw [hsignature]
    rfl
  have hread : Saved.read "f" "function = 'f'\n[values]\nn = 'str::substring(\"é\", 1)'\n"
      = .ok ⟨[("n", "str::substring(\"é\", 1)")]⟩ := by decide +kernel
  have hyes : Gives (Setup.judge ⟨[], ⟨0⟩, true, "."⟩ (.restore signature.name)) _
      ["True", "'a'", "5", "False"] _ := .of_evaluate rfl rfl _
  have hchoice : Gives (Setup.judgeRestored ⟨[], ⟨0⟩, true, "."⟩ signature
      (Store.single "function = 'f'\n[values]\nn = 'str::substring(\"é\", 1)'\n")) "a"
      ["'a'", "5", "False"] _ :=
    .of_keeps (by rw [hstore]; exact Store.keeps_single hread) rfl rfl _
  have hload : Setup.load ⟨[], ⟨0⟩, true, "."⟩ signature Arguments.empty
      (Setup.store ⟨[], ⟨0⟩, true, "."⟩ signature)
      (Store.single "function = 'f'\n[values]\nn = 'str::substring(\"é\", 1)'\n") "a"
        = .error (.answer "n" .crash) := by
    have hget : Saved.get? ⟨[("n", "str::substring(\"é\", 1)")]⟩ "n"
        = some "str::substring(\"é\", 1)" := rfl
    have hbreaks : Setup.loadAll ⟨[], ⟨0⟩, true, "."⟩ Arguments.empty
        ⟨[("n", "str::substring(\"é\", 1)")]⟩ [⟨"n", .int, none, none⟩]
          = .error (.answer "n" .crash) := loadAll_breaks (by decide) hget evaluate_cut
    rw [Setup.load, hstore, Store.restore_single.mpr hread, hsignature]
    simp only [Except.mapError, bind, Except.bind]
    exact hbreaks
  have hno : Gives (Setup.judge ⟨[], ⟨0⟩, true, "."⟩ (.restore signature.name)) _
      ["False", "5", "False"] _ := .of_evaluate rfl rfl _
  obtain ⟨τ, hcrashed⟩ := collect_load_breaks rfl hyes rfl hchoice hload rfl []
  obtain ⟨past', hrun', -, -⟩ :=
    collect_declined Arguments.empty rfl hchoice.list_ne_nil hno rfl []
  obtain ⟨c, τ', hdeclined⟩ : ∃ c τ', (Setup.collectRest ⟨[], ⟨0⟩, true, "."⟩ signature
      Arguments.empty ([], none)).run ⟨["5", "False"],
        Store.single "function = 'f'\n[values]\nn = 'str::substring(\"é\", 1)'\n", [] ++ past'⟩
        = .ok c τ' := by
    rw [hsignature]
    exact ⟨_, _, rfl⟩
  refine ⟨signature, τ, c, τ', ?_, hcrashed, hrun'.trans hdeclined⟩
  rw [hsignature]
  rfl

end Setup

end Questionnaire
