import Questionnaire.Proofs.Registry
import Questionnaire.Proofs.Session.Loop

namespace Questionnaire

/-!
# One setup for all runs

A loop can be run with a single setup, which is changed for the target and changed back for the
question.  Nothing of these changes is left in what the loop does.

* `Shared` — a part of a session that can change the setup.
* `Shared.loop` — the loop with a single setup.
* `Shared.loop_run` — it is the loop in which every run has a setup of its own.
-/

/-- A part of a session that can change the setup. -/
abbrev Shared (α : Type) := StateT Setup Dialogue α

namespace Shared

/-- From now on, the user is asked about restoring and saving, or is not. -/
def setSaves (enableSaves : Bool) : Shared Unit := modify fun w => { w with enableSaves }

/-- From now on, answers may refer to these functions. -/
def setFunctions (functions : List String) : Shared Unit := modify fun w => { w with functions }

/-- Runs a target with the setup as it is. -/
def runTarget (t : Target) (overrides : Arguments) : Shared (Option Json) := do
  (← get).run t overrides

/-- The target that asks whether another one runs again.  It does not ask about itself. -/
def question? (registry : Registry) (t : Target) : Option Target :=
  (registry.get? "rerun").filter fun _ => t.name != "rerun"

/-- Makes the setup ready for a target, runs it, and shows its result. -/
def round (t : Target) (overrides : Arguments) (enableSaves : Bool) : Shared Unit := do
  setSaves enableSaves
  setFunctions t.functions
  if let some result ← runTarget t overrides then Dialogue.note (.printed result)

/-- Makes the setup ready for a question, and puts it. -/
def asks (q : Target) : Shared Bool := do
  setSaves false
  setFunctions q.functions
  match ← runTarget q Arguments.empty with
  | some (.bool again) => return again
  | _ => return false

/-- Runs a target, and again as long as the user wants; `rounds` bounds the number of runs. -/
def loop (registry : Registry) (t : Target) (overrides : Arguments) (enableSaves : Bool) :
    (rounds : Nat) → Shared Unit
  | 0 => return ()
  | rounds + 1 => do
    round t overrides enableSaves
    match question? registry t with
    | none => return ()
    | some q => if ← asks q then loop registry t overrides enableSaves rounds

variable {t : Target} {overrides : Arguments} {enableSaves : Bool}

/-- Whatever the setup was before, a round is a run with a setup for the target. -/
theorem round_run (w : Setup) : (round t overrides enableSaves).run w
    = (fun _ => ((), w.forTarget t enableSaves)) <$>
      (w.forTarget t enableSaves).runAndShow t overrides := by
  simp only [round, setSaves, setFunctions, runTarget, Setup.runAndShow, StateT.run_bind,
    StateT.run_modify, StateT.run_get, StateT.run_monadLift, bind_assoc, pure_bind, map_bind]
  apply bind_congr
  intro result
  cases result <;> rfl

/-- Asking whether the target runs again leaves the setup of the question behind. -/
theorem asks_run (w : Setup) : (asks Rerun.target).run w
    = (fun again => (again, w.forTarget Rerun.target false)) <$> w.wantsAgain := by
  simp only [asks, setSaves, setFunctions, runTarget, Setup.wantsAgain, StateT.run_bind,
    StateT.run_modify, StateT.run_get, StateT.run_monadLift, bind_assoc, pure_bind, map_bind]
  apply bind_congr
  intro result
  cases result with
  | none => rfl
  | some json => cases json <;> rfl

/-- The question is asked of every target but itself. -/
theorem question_builtin (chance : Nat → Lindenmayer.Rgb) (t : Target) :
    question? (Registry.builtin chance) t
      = if t.name = Rerun.target.name then none else some Rerun.target := by
  have hget : (Registry.builtin chance).get? "rerun" = some Rerun.target := by
    rw [Registry.builtin, Registry.get?_register]
    exact if_pos rfl
  rw [question?, hget]
  split
  · rename_i hself
    rw [hself]
    rfl
  · rename_i hother
    rw [Option.filter_some, if_pos]
    exact bne_iff_ne.mpr hother

variable {chance : Nat → Lindenmayer.Rgb}

/-- With the setup changed to and fro, the rounds are those in which every run has its own. -/
theorem loop_run_other (hother : t.name ≠ Rerun.target.name) (w : Setup) (rounds : Nat) :
    (loop (Registry.builtin chance) t overrides enableSaves rounds).run' w
      = (w.forTarget t enableSaves).repeatRounds t overrides rounds := by
  induction rounds generalizing w with
  | zero => rfl
  | succ rounds ih =>
    rw [loop, Setup.repeatRounds, question_builtin, if_neg hother]
    simp only [StateT.run'_eq, StateT.run_bind, round_run, asks_run, bind_map_left, map_bind]
    apply bind_congr
    intro _
    apply bind_congr
    intro again
    cases again with
    | false => rfl
    | true => exact ih _

/-- The target that puts the question is not followed by it. -/
theorem loop_run_self (hself : t.name = Rerun.target.name) (w : Setup) (rounds : Nat) :
    (loop (Registry.builtin chance) t overrides enableSaves (rounds + 1)).run' w
      = (w.forTarget t enableSaves).runAndShow t overrides := by
  rw [loop, question_builtin, if_pos hself]
  simp [StateT.run'_eq, round_run]

/-- The loop with a single setup comes to an end before its rounds do, and takes its course. -/
theorem loop_run {w : Setup} {answers : List String} {files : FileTree}
    {r : EStateM.Result Stop Session Unit}
    (h : Course w.reportTime w.savesRoot enableSaves t overrides answers files r) {rounds : Nat}
    (hrounds : answers.length < rounds) :
    ((loop (Registry.builtin chance) t overrides enableSaves rounds).run' w).run
      ⟨answers, files, []⟩ = r := by
  obtain ⟨rounds, rfl⟩ := Nat.exists_eq_succ_of_ne_zero (Nat.ne_zero_of_lt hrounds)
  by_cases hname : t.name = Rerun.target.name
  · rw [Nat.succ_eq_add_one, loop_run_self hname]
    exact h.runAndShow_run hname
  · rw [loop_run_other hname, h.repeatRounds_run hname (Nat.le_of_lt_succ hrounds)]
    cases r <;> rfl

end Shared
end Questionnaire
