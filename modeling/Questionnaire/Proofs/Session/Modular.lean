import Questionnaire.Proofs.Session.Parts

namespace Questionnaire

/-!
# Properties of parts and of the whole

A run of questions is put together from questions, from reading the files and from reports.  What
holds of these, and of all that is put together from parts of which it holds, holds of the run.

* `Dialogue.IsModular` — a property of this kind.
* `Setup.HoldsOfQuestions` — the questions of a run have a property.
* `Setup.collect_modular` — then so has the run.
-/

namespace Dialogue

/-- A property that a part of a session has if its own parts have it. -/
structure IsModular (P : (α : Type) → Dialogue α → Prop) : Prop where
  pure : ∀ {α : Type} (a : α), P α (Pure.pure a)
  bind : ∀ {α β : Type} {x : Dialogue α} {f : α → Dialogue β}, P α x → (∀ a, P β (f a)) →
    P β (x >>= f)
  files : P FileTree files
  crash : ∀ {α : Type}, P α (throw .crashed)
  reported : ∀ report, P Unit (note (.reported report))

/-- A part whose result is changed is as it was before. -/
theorem IsModular.map {P : (α : Type) → Dialogue α → Prop} (hP : IsModular P) {α β : Type}
    {x : Dialogue α} (hx : P α x) (f : α → β) : P β (f <$> x) := by
  rw [map_eq_pure_bind]
  exact hP.bind hx fun a => hP.pure (f a)

end Dialogue

namespace Setup

open Dialogue (IsModular)

variable {P : (α : Type) → Dialogue α → Prop} {s : Setup} {signature : Signature}
  {overrides : Arguments}

/-- All questions of a run have a property: those of the session itself, and those for parameters
    that are neither overridden nor internal. -/
structure HoldsOfQuestions (P : (α : Type) → Dialogue α → Prop) (s : Setup) (signature : Signature)
    (overrides : Arguments) : Prop where
  session : ∀ q : Question, q.isParameter = false → P Given (s.ask q)
  parameter : ∀ p ∈ signature.params, overrides.contains p.name = false → p.isInternal = false →
    P Given (s.ask (.ofParameter signature.name p))
  savedName : ∀ (names : List String) (q : Question), q.isParameter = false →
    P String (Dialogue.put q fun files answer =>
      (s.judgeSavedName (s.store signature) names q files answer, files))
  newName : ∀ (saved : Saved) (q : Question), q.isParameter = false →
    P String (Dialogue.put q (s.judgeNewName (s.store signature) saved q))

/-- A decision is as its question. -/
theorem confirm_modular (hP : IsModular P) {q : Question} (hq : P Given (s.ask q)) :
    P Bool (s.confirm q) :=
  hP.bind hq fun _ => hP.pure _

/-- Loading asks for nothing, so it is as any part that looks at files and reports. -/
theorem tryLoad_modular (hP : IsModular P) (signature : Signature) (overrides : Arguments)
    (name : String) : P _ (s.tryLoad signature overrides name) := by
  apply hP.bind hP.files
  intro files
  split
  · exact hP.pure _
  · split
    · exact hP.crash
    · exact hP.bind (hP.reported _) fun _ => hP.pure _

/-- Restoring is as its two questions. -/
theorem restore_modular (hP : IsModular P) (hquestions : s.HoldsOfQuestions P signature overrides) :
    P _ (s.restore signature overrides) := by
  apply hP.bind hP.files
  intro files
  split
  · exact hP.pure _
  · apply hP.bind (confirm_modular hP (hquestions.session _ rfl))
    intro yes
    split
    · exact hP.bind (hquestions.savedName _ _ rfl) (tryLoad_modular hP signature overrides)
    · exact hP.pure _

/-- A parameter is as its question, if it is asked for. -/
theorem collectOne_modular (hP : IsModular P) {function : String} (restored : List (String × Given))
    {p : Parameter} (hp : p.isInternal = false → P Given (s.ask (.ofParameter function p))) :
    P _ (s.collectOne function restored p) := by
  unfold collectOne
  split
  · exact hP.pure _
  · rename_i hasked
    split
    · exact hP.pure _
    · exact hP.map (hp (by simpa using hasked)) some

/-- All parameters are as their questions. -/
theorem collectFrom_modular (hP : IsModular P) {function : String}
    (restored : List (String × Given)) {params : List Parameter}
    (hparams : ∀ p ∈ params, overrides.contains p.name = false → p.isInternal = false →
      P Given (s.ask (.ofParameter function p))) (c : Collection) :
    P _ (s.collectFrom function overrides restored params c) := by
  -- The induction is on the parameters, with what has been collected so far left open.
  induction params generalizing c with
  | nil => exact hP.pure c
  | cons p params ih =>
    have hrest := fun q hq => hparams q (List.mem_cons_of_mem p hq)
    rw [collectFrom]
    split
    · exact ih hrest c
    · rename_i hoverride
      apply hP.bind (collectOne_modular hP restored
        (hparams p List.mem_cons_self (by simpa using hoverride)))
      intro given
      cases given with
      | none => exact ih hrest c
      | some given => exact ih hrest (c.add p.name given)

/-- Saving is as its two questions. -/
theorem save_modular (hP : IsModular P) (hquestions : s.HoldsOfQuestions P signature overrides)
    (c : Collection) : P _ (s.save signature c) := by
  apply hP.bind (confirm_modular hP (hquestions.session _ rfl))
  intro yes
  split
  · exact hP.map (hquestions.newName _ _ rfl) some
  · exact hP.pure _

/-- **Runs of questions.** What holds of all questions holds of the run. -/
theorem collect_modular (hP : IsModular P) (hquestions : s.HoldsOfQuestions P signature overrides) :
    P _ (s.collect signature overrides) := by
  rw [collect_eq]
  apply hP.bind
  · split
    · exact restore_modular hP hquestions
    · exact hP.pure _
  · intro restored
    apply hP.bind (collectFrom_modular hP restored.1 hquestions.parameter _)
    intro c
    split
    · exact hP.bind (save_modular hP hquestions c) fun _ => hP.pure _
    · exact hP.pure c

end Setup

end Questionnaire
