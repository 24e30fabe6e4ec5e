import Mathlib.Data.List.Basic
import Questionnaire.Session.Basic

namespace Questionnaire

/-!
# Dialogues step by step

* `run_pure_eq_ok`, `run_bind_eq_ok`, `run_map_eq_ok` — when the pieces of a dialogue end well.
* `put_accepted` — a question that ends well has been given an accepted answer.
* `put_run` — a question, given refused answers and then an accepted one.
-/

variable {α β : Type}

/-- Two judgments in turn accept if both of them do. -/
theorem Judgment.bind_eq_accepted {j : Judgment α} {f : α → Judgment β} {b : β} :
    j.bind f = .accepted b ↔ ∃ a, j = .accepted a ∧ f a = .accepted b := by
  cases j <;> simp [Judgment.bind]

/-- Two judgments in turn refuse if one of them does. -/
theorem Judgment.bind_eq_refused {j : Judgment α} {f : α → Judgment β} {report : Report} :
    j.bind f = .refused report
      ↔ j = .refused report ∨ ∃ a, j = .accepted a ∧ f a = .refused report := by
  cases j <;> simp [Judgment.bind]

/-- Two judgments in turn break off if one of them does. -/
theorem Judgment.bind_eq_crashed {j : Judgment α} {f : α → Judgment β} :
    j.bind f = .crashed ↔ j = .crashed ∨ ∃ a, j = .accepted a ∧ f a = .crashed := by
  cases j <;> simp [Judgment.bind]

namespace Dialogue

/-! ### Steps -/

/-- Nothing is done, and there is a result. -/
@[simp] theorem run_pure_eq_ok {a b : α} {σ τ : Session} :
    (pure a : Dialogue α).run σ = .ok b τ ↔ a = b ∧ σ = τ := by
  rw [EStateM.run_pure]
  simp

/-- Two parts in turn have a result if the first one has, and the second one behind it. -/
@[simp] theorem run_bind_eq_ok {x : Dialogue α} {f : α → Dialogue β} {b : β} {σ τ : Session} :
    (x >>= f).run σ = .ok b τ ↔ ∃ a ρ, x.run σ = .ok a ρ ∧ (f a).run ρ = .ok b τ := by
  rw [EStateM.run_bind]
  cases h : x.run σ <;> simp

/-- A part whose result is changed has one if it had one before. -/
@[simp] theorem run_map_eq_ok {x : Dialogue α} {f : α → β} {b : β} {σ τ : Session} :
    (f <$> x).run σ = .ok b τ ↔ ∃ a, x.run σ = .ok a τ ∧ f a = b := by
  rw [map_eq_pure_bind, run_bind_eq_ok]
  constructor
  · rintro ⟨a, ρ, hx, hf⟩
    obtain ⟨rfl, rfl⟩ := run_pure_eq_ok.mp hf
    exact ⟨a, hx, rfl⟩
  · rintro ⟨a, hx, rfl⟩
    exact ⟨a, τ, hx, run_pure_eq_ok.mpr ⟨rfl, rfl⟩⟩

/-- The files are looked at, and nothing is done. -/
@[simp] theorem run_files_eq_ok {t : FileTree} {σ τ : Session} :
    files.run σ = .ok t τ ↔ σ.files = t ∧ σ = τ := by
  show EStateM.Result.ok σ.files σ = .ok t τ ↔ _
  simp

/-! ### Questions -/

/-- A question that ends well has been given an accepted answer.  Judging that answer was the last
    thing that could change files. -/
theorem put_accepted {q : Question} {judge : FileTree → String → Judgment α × FileTree} {a : α}
    {σ τ : Session} (h : (put q judge).run σ = .ok a τ) :
    ∃ files answer, judge files answer = (.accepted a, τ.files) := by
  have hput (answers : List String) (files : FileTree) (events : List Event)
      (hrun : putTo q judge files events answers = .ok a τ) :
      ∃ files answer, judge files answer = (.accepted a, τ.files) := by
    -- Every refused answer leaves other files and more events to the next round.
    induction answers generalizing files events with
    | nil => cases hrun
    | cons answer rest ih =>
      rw [putTo] at hrun
      split at hrun
      · rename_i b files' hjudge
        cases hrun
        exact ⟨files, answer, hjudge⟩
      · exact ih _ _ hrun
      · cases hrun
  exact hput _ _ _ h

end Dialogue

/-! ### Silent steps -/

/-- From one session to another, files are the same and only questions of the session itself have
    been put. -/
structure Session.Silent (σ τ : Session) : Prop where
  files : τ.files = σ.files
  events : ∃ more, τ.events = σ.events ++ more ∧ ∀ q, .asked q ∈ more → q.isParameter = false

/-- Two silent steps are one. -/
theorem Session.Silent.trans {σ ρ τ : Session} (h : σ.Silent ρ) (h' : ρ.Silent τ) :
    σ.Silent τ := by
  obtain ⟨hfiles, more, hevents, hmore⟩ := h
  obtain ⟨hfiles', more', hevents', hmore'⟩ := h'
  refine ⟨hfiles'.trans hfiles, more ++ more', ?_, ?_⟩
  · rw [hevents', hevents, List.append_assoc]
  · intro q hq
    rcases List.mem_append.mp hq with hq | hq
    · exact hmore q hq
    · exact hmore' q hq

/-- A question of the session itself, given answers that are refused and then one that is
    accepted. -/
theorem Dialogue.put_run {q : Question} (hq : q.isParameter = false)
    {judge : FileTree → String → Judgment α × FileTree} {a : α} {wrong : List String}
    {answer : String} {rest : List String} {σ : Session}
    (hσ : σ.answers = wrong ++ answer :: rest)
    (hwrong : ∀ x ∈ wrong, ∃ report, judge σ.files x = (.refused report, σ.files))
    (hanswer : judge σ.files answer = (.accepted a, σ.files)) :
    ∃ τ, (put q judge).run σ = .ok a τ ∧ τ.answers = rest ∧ σ.Silent τ := by
  have hput (wrong : List String) (events : List Event)
      (hwrong : ∀ x ∈ wrong, ∃ report, judge σ.files x = (.refused report, σ.files)) :
      ∃ more, putTo q judge σ.files events (wrong ++ answer :: rest)
          = .ok a ⟨rest, σ.files, events ++ more⟩
        ∧ ∀ q', .asked q' ∈ more → q'.isParameter = false := by
    -- Refused answers change the events only: by `hwrong` the files stay as they are.
    induction wrong generalizing events with
    | nil =>
      refine ⟨[.asked q, .answered], ?_, ?_⟩
      · rw [List.nil_append, putTo, hanswer]
      · intro q' hq'
        obtain rfl : q' = q := by simpa using hq'
        exact hq
    | cons x wrong ih =>
      obtain ⟨report, hreport⟩ := hwrong x List.mem_cons_self
      obtain ⟨more, hrun, hmore⟩ := ih (events ++ [.asked q, .answered] ++ [.reported report])
        fun y hy => hwrong y (List.mem_cons_of_mem x hy)
      refine ⟨[.asked q, .answered, .reported report] ++ more, ?_, ?_⟩
      · rw [List.cons_append, putTo, hreport]
        simpa using hrun
      · intro q' hq'
        rcases List.mem_append.mp hq' with hq' | hq'
        · obtain rfl : q' = q := by simpa using hq'
          exact hq
        · exact hmore q' hq'
  obtain ⟨more, hrun, hmore⟩ := hput wrong σ.events hwrong
  refine ⟨⟨rest, σ.files, σ.events ++ more⟩, ?_, rfl, rfl, more, rfl, hmore⟩
  show putTo q judge σ.files σ.events σ.answers = _
  rw [hσ]
  exact hrun

end Questionnaire
