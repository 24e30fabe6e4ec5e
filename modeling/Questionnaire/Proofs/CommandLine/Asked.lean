import Questionnaire.Proofs.CommandLine.Run
import Questionnaire.Proofs.Session.Loop
import Questionnaire.Proofs.Session.Modular

namespace Questionnaire

/-!
# What a loop asks

* `Dialogue.Asks` — a part of a session that puts questions of one kind only.
* `Dialogue.Begins` — a part of a session in which something happens first.
* `Setup.collect_asks`, `Setup.repeatRun_asks` — the questions of runs and of the loop.
* `Setup.repeatRounds_asked` — each round asks whether there is another one.
* `Plan.overrides_contains` — what is configured or assigned is overridden.
* `Plan.configured_unasked` — so it is never asked for, and reaches the target.
-/

variable {α β : Type}

namespace Dialogue

/-! ### Questions of one kind -/

/-- Whatever a part does to a session, all questions that it puts are of a kind. -/
def Asks (P : Question → Prop) (x : Dialogue α) : Prop :=
  ∀ σ, ∃ more, (final (x.run σ)).events = σ.events ++ more ∧ ∀ q ∈ Session.questionsIn more, P q

variable {P P' : Question → Prop}

/-- One part after the other asks such questions if both do. -/
theorem Asks.bind {x : Dialogue α} {f : α → Dialogue β} (hx : Asks P x) (hf : ∀ a, Asks P (f a)) :
    Asks P (x >>= f) := by
  intro σ
  obtain ⟨more, hevents, hmore⟩ := hx σ
  rw [EStateM.run_bind]
  -- The questions of both parts, or of the first one alone if it stops.
  cases hrun : x.run σ with
  | ok a ρ =>
    rw [hrun] at hevents
    obtain ⟨more', hevents', hmore'⟩ := hf a ρ
    refine ⟨more ++ more', ?_, ?_⟩
    · dsimp only
      rw [hevents', show ρ.events = σ.events ++ more from hevents, List.append_assoc]
    · intro q hq
      rw [Session.questionsIn_append] at hq
      exact (List.mem_append.mp hq).elim (hmore q) (hmore' q)
  | error stop τ =>
    rw [hrun] at hevents
    exact ⟨more, hevents, hmore⟩

/-- A part in which nothing happens asks nothing. -/
theorem Asks.of_events {x : Dialogue α} (h : ∀ σ, (final (x.run σ)).events = σ.events) :
    Asks P x :=
  fun σ => ⟨[], by rw [h σ, List.append_nil], by simp [Session.questionsIn, Session.questions]⟩

/-- Questions of one kind may also be of another. -/
theorem Asks.weaken {x : Dialogue α} (hx : Asks P x) (h : ∀ q, P q → P' q) : Asks P' x := by
  intro σ
  obtain ⟨more, hevents, hmore⟩ := hx σ
  exact ⟨more, hevents, fun q hq => h q (hmore q hq)⟩

/-- Something that happens is no question, unless it is one. -/
theorem Asks.note {e : Event} (he : Session.questionsIn [e] = []) : Asks P (Dialogue.note e) :=
  fun σ => ⟨[e], rfl, by simp [he]⟩

/-- Asking only such questions can be told part by part. -/
theorem asks_modular : IsModular fun _ x => Asks P x where
  pure _ := .of_events fun _ => rfl
  bind := Asks.bind
  files := .of_events fun _ => rfl
  crash := .of_events fun _ => rfl
  reported _ := .note rfl

/-- A question is put as often as it takes, and no other one. -/
theorem Asks.put {q : Question} (hq : P q) (judge : FileTree → String → Judgment α × FileTree) :
    Asks P (Dialogue.put q judge) := by
  -- The induction is on the answers; each round puts the question once more.
  have hput (answers : List String) (files : FileTree) (before : List Event) :
      ∃ more, (final (putTo q judge files before answers)).events = before ++ more
        ∧ ∀ q' ∈ Session.questionsIn more, P q' := by
    induction answers generalizing files before with
    | nil => exact ⟨[.asked q], rfl, by simp [Session.questionsIn, Session.questions, hq]⟩
    | cons answer rest ih =>
      have hone : ∀ q' ∈ Session.questionsIn [.asked q, .answered], P q' := by
        simp [Session.questionsIn, Session.questions, hq]
      rw [putTo]
      split
      · exact ⟨_, rfl, hone⟩
      · rename_i report files' _
        obtain ⟨more, hevents, hmore⟩ :=
          ih files' (before ++ [.asked q, .answered] ++ [.reported report])
        refine ⟨[.asked q, .answered] ++ ([.reported report] ++ more), ?_, ?_⟩
        · rw [hevents]
          simp
        · intro q' hq'
          rw [Session.questionsIn_append] at hq'
          exact (List.mem_append.mp hq').elim (hone q') (hmore q')
      · exact ⟨_, rfl, hone⟩
  exact fun σ => hput σ.answers σ.files σ.events

/-- Whatever a part does to a session, something happens first. -/
def Begins (e : Event) (x : Dialogue α) : Prop :=
  ∀ σ, ∃ more, (final (x.run σ)).events = σ.events ++ e :: more

/-- What begins with an event does so, whatever comes after it. -/
theorem Begins.bind {e : Event} {x : Dialogue α} {f : α → Dialogue β} (hx : Begins e x)
    (hf : ∀ a, Asks (fun _ => True) (f a)) : Begins e (x >>= f) := by
  intro σ
  obtain ⟨more, hevents⟩ := hx σ
  rw [EStateM.run_bind]
  cases hrun : x.run σ with
  | ok a ρ =>
    rw [hrun] at hevents
    obtain ⟨more', hevents', -⟩ := hf a ρ
    refine ⟨more ++ more', ?_⟩
    dsimp only
    rw [hevents', show ρ.events = σ.events ++ e :: more from hevents]
    simp
  | error stop τ =>
    rw [hrun] at hevents
    exact ⟨more, hevents⟩

/-- Putting a question begins with it, whether or not there is an answer. -/
theorem Begins.put (q : Question) (judge : FileTree → String → Judgment α × FileTree) :
    Begins (.asked q) (Dialogue.put q judge) := by
  rintro ⟨answers, files, events⟩
  cases answers with
  | nil => exact ⟨[], rfl⟩
  | cons answer rest =>
    show ∃ more, (final (putTo q judge files events (answer :: rest))).events = _
    rw [putTo]
    split
    · exact ⟨[.answered], rfl⟩
    · rename_i report files' _
      obtain ⟨more, hevents, -⟩ := Asks.put (P := fun _ => True) trivial judge
        ⟨rest, files', events ++ [.asked q, .answered] ++ [.reported report]⟩
      exact ⟨.answered :: .reported report :: more, hevents.trans (by simp)⟩
    · exact ⟨[.answered], rfl⟩

end Dialogue

namespace Setup

open Dialogue (Asks Begins)

variable {s : Setup} {t : Target} {overrides : Arguments}

/-! ### Questions of a loop -/

/-- A question that a run for a target can put: one of the session itself, or one for a parameter
    that is neither overridden nor internal. -/
def MayAsk (signature : Signature) (overrides : Arguments) (q : Question) : Prop :=
  q.isParameter = false ∨ ∃ p ∈ signature.params, overrides.contains p.name = false
    ∧ p.isInternal = false ∧ q = .ofParameter signature.name p

/-- A run of questions asks for parameters that are not overridden, or about the configuration. -/
theorem collect_asks (signature : Signature) (overrides : Arguments) :
    Asks (MayAsk signature overrides) (s.collect signature overrides) := by
  apply collect_modular Dialogue.asks_modular
  constructor
  case session => exact fun q hq => .put (Or.inl hq) _
  case parameter =>
    intro p hp hoverride hinternal
    exact .put (Or.inr ⟨p, hp, hoverride, hinternal, rfl⟩) _
  case savedName => exact fun _ q hq => .put (Or.inl hq) _
  case newName => exact fun _ q hq => .put (Or.inl hq) _

/-- Invoking a target asks for nothing. -/
theorem invoke_asks (t : Target) (a : Arguments) {P : Question → Prop} : Asks P (invoke t a) := by
  intro σ
  rw [invoke_run_eq]
  exact ⟨_, rfl, by simp [questionsIn_complaints]⟩

/-- A run of a target asks as its run of questions does. -/
theorem run_asks (t : Target) (overrides : Arguments) :
    Asks (MayAsk t.signature overrides) (s.run t overrides) :=
  (collect_asks t.signature overrides).bind fun _ => invoke_asks t _

/-- A run whose result is shown asks as its run of questions does. -/
theorem runAndShow_asks (t : Target) (overrides : Arguments) :
    Asks (MayAsk t.signature overrides) (s.runAndShow t overrides) := by
  apply (run_asks t overrides).bind
  intro result
  split
  · exact .note rfl
  · exact .of_events fun _ => rfl

/-- Whether there is another run is one question. -/
theorem wantsAgain_asks : Asks (· = Rerun.question) s.wantsAgain := by
  have hcollect : Asks (· = Rerun.question)
      ((s.forTarget Rerun.target false).collect Rerun.signature Arguments.empty) := by
    have hask : Asks (· = Rerun.question) ((s.forTarget Rerun.target false).ask Rerun.question) :=
      Asks.put (P := (· = Rerun.question)) rfl _
    rw [collect_rerun rfl]
    exact Dialogue.asks_modular.map hask _
  apply (hcollect.bind fun _ => invoke_asks Rerun.target _).bind
  intro result
  split
  · exact .of_events fun _ => rfl
  · exact .of_events fun _ => rfl

/-- It is put in any case, before anything else. -/
theorem wantsAgain_begins (s : Setup) : Begins (.asked Rerun.question) s.wantsAgain := by
  have hcollect : Begins (.asked Rerun.question)
      ((s.forTarget Rerun.target false).collect Rerun.signature Arguments.empty) := by
    rw [collect_rerun rfl, map_eq_pure_bind]
    exact (Begins.put _ _).bind fun _ => .of_events fun _ => rfl
  apply (hcollect.bind fun _ => invoke_asks Rerun.target _).bind
  intro result
  split
  · exact .of_events fun _ => rfl
  · exact .of_events fun _ => rfl

/-- Rounds of the loop ask, in addition, whether the target runs again. -/
theorem repeatRounds_asks (t : Target) (overrides : Arguments) (rounds : Nat) :
    Asks (fun q => MayAsk t.signature overrides q ∨ q = Rerun.question)
      (s.repeatRounds t overrides rounds) := by
  induction rounds with
  | zero => exact .of_events fun _ => rfl
  | succ rounds ih =>
    rw [repeatRounds]
    apply ((runAndShow_asks t overrides).weaken fun _ => Or.inl).bind
    intro _
    apply (wantsAgain_asks.weaken fun _ => Or.inr).bind
    intro again
    split
    · exact ih
    · exact .of_events fun _ => rfl

/-- In each round, a run that comes to an end is followed by the question. -/
theorem repeatRounds_asked (rounds : Nat) {result : Option Json} {σ τ : Session}
    (hrun : (s.run t overrides).run σ = .ok result τ) :
    ∃ more, (Dialogue.final ((s.repeatRounds t overrides (rounds + 1)).run σ)).events
      = (τ.shown result).events ++ .asked Rerun.question :: more := by
  have hrest (again : Bool) : Asks (fun _ => True)
      (if again then s.repeatRounds t overrides rounds else pure ()) := by
    split
    · exact (repeatRounds_asks t overrides rounds).weaken fun _ _ => trivial
    · exact .of_events fun _ => rfl
  rw [repeatRounds, EStateM.run_bind, runAndShow_run_ok hrun]
  exact s.wantsAgain_begins.bind hrest (τ.shown result)

/-- The question by yes or no does not come up in its own loop, but for itself. -/
theorem repeatRun_asks (t : Target) (overrides : Arguments) :
    Asks (fun q => MayAsk t.signature overrides q
      ∨ q = Rerun.question ∧ t.name ≠ Rerun.target.name) (s.repeatRun t overrides) := by
  unfold repeatRun
  split
  · exact (runAndShow_asks t overrides).weaken fun _ => Or.inl
  · rename_i hname
    have hother : t.name ≠ Rerun.target.name := by simpa using hname
    intro σ
    exact ((repeatRounds_asks t overrides _).weaken fun q hq => hq.imp_right (⟨·, hother⟩)) σ

end Setup

/-- The questions of a loop of one run are those of the run and the last one. -/
theorem Session.questions_after_shown (σ ρ : Session) (result : Option Json) :
    (ρ.after (σ.shown result).events).questions = σ.questions ++ ρ.questions := by
  have hprinted : questionsIn (result.map .printed).toList = [] := by
    cases result <;> rfl
  show questionsIn (σ.events ++ (result.map .printed).toList ++ ρ.events)
    = questionsIn σ.events ++ questionsIn ρ.events
  rw [questionsIn_append, questionsIn_append, hprinted, List.append_nil]

namespace Plan

/-! ### Configured values -/

variable {c : Configuration} {t : Target} {assignments : List String} {a : Arguments}

/-- What is configured or assigned is overridden. -/
theorem overrides_contains (h : overrides? c t assignments = .ok a) {name : String}
    (hname : name ∈ Keyed.keys (c.fieldsFor t)
      ∨ ∃ x ∈ assignments, ∃ v, Override.parse t x = .ok (name, v)) : a.contains name = true := by
  obtain ⟨hall, rfl⟩ := overrides_ok h
  rw [Arguments.contains, Arguments.get?_merge, Arguments.get?_merge, Option.isSome_or,
    Option.isSome_or, Bool.or_eq_true, Bool.or_eq_true, Keyed.isSome_lookup_iff,
    Keyed.isSome_lookup_iff]
  rcases hname with hname | ⟨x, hx, v, hparse⟩
  · obtain ⟨field, hfield, rfl⟩ := List.mem_map.mp hname
    obtain ⟨⟨other, v⟩, hpair⟩ := hall field hfield
    obtain ⟨rfl, -⟩ := Override.ofField_ok hpair
    refine Or.inr (Or.inl (List.mem_map.mpr ⟨(field.1, v), ?_, rfl⟩))
    rw [List.mem_reverse]
    exact List.mem_filterMap.mpr ⟨field, hfield, Except.toOption_eq_some.mpr hpair⟩
  · refine Or.inl (List.mem_map.mpr ⟨(name, v), ?_, rfl⟩)
    rw [List.mem_reverse]
    exact List.mem_filterMap.mpr ⟨x, hx, Except.toOption_eq_some.mpr hparse⟩

/-- **Configured values.** A loop never asks for a parameter of its target that is configured or
    assigned, and all calls of the target have the values that are configured, but for those that
    are assigned.  The question whether the target runs again has no such values: whatever is
    configured for it, in each round it is put as soon as the run of the target has come to an
    end. -/
theorem configured_unasked {overrides : Arguments}
    (hoverrides : overrides? c t assignments = .ok overrides) (s : Setup) (answers : List String)
    (files : FileTree) :
    (∀ q ∈ (Dialogue.final ((s.repeatRun t overrides).run ⟨answers, files, []⟩)).questions,
      q.isParameter = true → q.function = t.name →
        q.parameter ∉ Keyed.keys (c.fieldsFor t)
          ∧ ∀ x ∈ assignments, ∀ v, Override.parse t x ≠ .ok (q.parameter, v))
    ∧ (∀ call ∈ s.calls t overrides ⟨answers, files, []⟩,
      call.target = t ∧ Honors call.arguments c t assignments
        ∨ call.target = Rerun.target ∧ call.overrides = Arguments.empty)
    ∧ ∀ rounds result σ τ, (s.run t overrides).run σ = .ok result τ →
      ∃ more, (Dialogue.final ((s.repeatRounds t overrides (rounds + 1)).run σ)).events
        = (τ.shown result).events ++ .asked Rerun.question :: more := by
  refine ⟨?_, ?_, fun rounds _ _ _ => Setup.repeatRounds_asked rounds⟩
  · intro q hq hparameter hfunction
    obtain ⟨more, hevents, hmore⟩ := s.repeatRun_asks t overrides ⟨answers, files, []⟩
    have hasked : q ∈ Session.questionsIn more := by
      rw [Session.questions, hevents] at hq
      exact hq
    rcases hmore q hasked with (hsession | ⟨p, -, hoverride, -, rfl⟩) | ⟨rfl, hother⟩
    · rw [hsession] at hparameter
      cases hparameter
    · -- what is overridden is not asked for, so it is neither configured nor assigned
      have hnone : overrides.contains p.name ≠ true := by simp [hoverride]
      exact ⟨fun hkey => hnone (overrides_contains hoverrides (Or.inl hkey)),
        fun x hx v hparse => hnone (overrides_contains hoverrides (Or.inr ⟨x, hx, v, hparse⟩))⟩
    · exact absurd hfunction.symm hother
  · apply Setup.calls_all
    · intro σ collection τ _
      exact Or.inl ⟨rfl, (overrides_honor hoverrides).merge
        (overrides_admitted hoverrides).distinct collection.arguments⟩
    · intro _ σ collection τ _
      exact Or.inr ⟨rfl, rfl⟩

/-- A configuration for a drawing without lines, of which only the output is left open, and for no
    other one after it. -/
def drawnOnce : Configuration where
  targets :=
    [("lindenmayer", ⟨some [("axiom", .str "F"), ("rules", .str "F -> F"), ("depth", .int 1),
        ("angle", .int 90), ("forward", .str "G"), ("step_length", .int 10),
        ("initial_angle", .int 0), ("compression_factor", .str "auto"),
        ("fg_color", .array [.int 255, .int 255, .int 255]),
        ("bg_color", .array [.int 0, .int 0, .int 0]),
        ("canvas_size", .array [.int 800, .int 800])]⟩),
      ("rerun", ⟨some [("rerun", .bool false)]⟩)]

/-- What it overrides of the drawing. -/
def drawnOnce.overrides : Arguments :=
  ⟨[("axiom", .str "F"), ("rules", .str "F -> F"), ("depth", .int 1), ("angle", .int 90),
    ("forward", .str "G"), ("step_length", .int 10), ("initial_angle", .int 0),
    ("compression_factor", .str "auto"), ("fg_color", .seq [.int 255, .int 255, .int 255]),
    ("bg_color", .seq [.int 0, .int 0, .int 0]), ("canvas_size", .seq [.int 800, .int 800])]⟩

/-- Its drawing asks for the output only. -/
theorem drawnOnce_run (chance : Nat → Lindenmayer.Rgb) (rest : List String) :
    ∃ result τ, (Lindenmayer.target chance).runAlone ⟨0⟩ "." false drawnOnce.overrides
        ("" :: rest) .empty = .ok result τ
      ∧ τ.questions.map (·.parameter) = ["output"] ∧ τ.answers = rest ∧ τ.files = .empty :=
  ⟨_, _, rfl, rfl, rfl, rfl⟩

/-- With an answer for the output and one for the question, no other parameter is asked for. -/
theorem configured_unasked_again :
    ∃ (t : Target) (τ : Session),
      (Registry.builtin fun _ => ⟨0, 0, 0⟩).get? "lindenmayer" = some t
      ∧ drawnOnce.check (Registry.builtin fun _ => ⟨0, 0, 0⟩) = .ok ()
      ∧ overrides? drawnOnce t [] = .ok drawnOnce.overrides
      ∧ (Setup.repeatRun ⟨t.functions, ⟨0⟩, false, "."⟩ t drawnOnce.overrides).run
          ⟨["", "False"], .empty, []⟩ = .ok () τ
      ∧ τ.questions.map (·.parameter) = ["output", "rerun"]
      ∧ ∀ q ∈ τ.questions, q.isParameter = true → q.function = "lindenmayer" →
          q.parameter ∉ Keyed.keys drawnOnce.overrides.entries := by
  -- The target is kept behind an equation, so that its runs are evaluated only where it is asked
  -- for.
  obtain ⟨t, ht⟩ : ∃ t, t = Lindenmayer.target fun _ => ⟨0, 0, 0⟩ := ⟨_, rfl⟩
  have hname : t.name = "lindenmayer" := by
    rw [ht]
    rfl
  have hoverrides : overrides? drawnOnce t [] = .ok drawnOnce.overrides := by
    rw [ht]
    rfl
  obtain ⟨result, σ, hrun, hquestions, hanswers, hfiles⟩ :=
    drawnOnce_run (fun _ => ⟨0, 0, 0⟩) ["False"]
  obtain ⟨ρ, hno, hrerun⟩ : ∃ ρ, Rerun.target.runAlone ⟨0⟩ "." false Arguments.empty ["False"] .empty
      = .ok (some (.bool false)) ρ ∧ ρ.questions.map (·.parameter) = ["rerun"] := ⟨_, rfl, rfl⟩
  rw [← ht] at hrun
  rw [← hanswers, ← hfiles] at hno
  have hcourse := Course.ended hrun (by rw [hname]; decide) hno (by simp)
  have hloop : (Setup.repeatRun ⟨t.functions, ⟨0⟩, false, "."⟩ t drawnOnce.overrides).run
      ⟨["", "False"], .empty, []⟩ = .ok () (ρ.after (σ.shown result).events) :=
    hcourse.repeatRun_run (w := ⟨[], ⟨0⟩, false, "."⟩)
  obtain ⟨hunasked, -, -⟩ := configured_unasked hoverrides ⟨t.functions, ⟨0⟩, false, "."⟩
    ["", "False"] .empty
  rw [hloop] at hunasked
  have hfields : Keyed.keys (drawnOnce.fieldsFor t) = Keyed.keys drawnOnce.overrides.entries := by
    rw [ht]
    rfl
  refine ⟨t, _, by rw [ht]; rfl, rfl, hoverrides, hloop, ?_, ?_⟩
  · rw [Session.questions_after_shown, List.map_append, hquestions, hrerun]
    rfl
  · intro q hq hparameter hfunction
    rw [← hfields]
    exact (hunasked q hq hparameter (hfunction.trans hname.symm)).1

/-- The question is put although a false answer to it is configured, and the configuration has been
    checked.  Without an answer, the session stops there. -/
theorem rerun_asked_although_configured :
    ∃ (t : Target) (τ : Session),
      (Registry.builtin fun _ => ⟨0, 0, 0⟩).get? "lindenmayer" = some t
      ∧ drawnOnce.check (Registry.builtin fun _ => ⟨0, 0, 0⟩) = .ok ()
      ∧ ("rerun", .bool false) ∈ drawnOnce.fieldsFor Rerun.target
      ∧ overrides? drawnOnce t [] = .ok drawnOnce.overrides
      ∧ (Setup.repeatRun ⟨t.functions, ⟨0⟩, false, "."⟩ t drawnOnce.overrides).run
          ⟨[""], .empty, []⟩ = .error (.unanswered Rerun.question) τ
      ∧ Rerun.question.isParameter = true ∧ Rerun.question.function = "rerun"
      ∧ Rerun.question.parameter = "rerun" := by
  -- The picture is drawn without a question, and then `rerun` is asked for all the same.
  obtain ⟨t, ht⟩ : ∃ t, t = Lindenmayer.target fun _ => ⟨0, 0, 0⟩ := ⟨_, rfl⟩
  have hname : t.name = "lindenmayer" := by
    rw [ht]
    rfl
  obtain ⟨result, σ, hrun, -, hanswers, hfiles⟩ := drawnOnce_run (fun _ => ⟨0, 0, 0⟩) []
  obtain ⟨ρ, hstop⟩ : ∃ ρ, Rerun.target.runAlone ⟨0⟩ "." false Arguments.empty [] .empty
      = .error (.unanswered Rerun.question) ρ := ⟨_, rfl⟩
  rw [← ht] at hrun
  rw [← hanswers, ← hfiles] at hstop
  have hcourse := Course.unanswered hrun (by rw [hname]; decide) hstop
  exact ⟨t, _, by rw [ht]; rfl, rfl, List.mem_singleton.mpr rfl, by rw [ht]; rfl,
    hcourse.repeatRun_run (w := ⟨[], ⟨0⟩, false, "."⟩), rfl, rfl, rfl⟩

end Plan

end Questionnaire
