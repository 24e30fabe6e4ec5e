import Questionnaire.Proofs.Session.Collect
import Questionnaire.Session.Run

namespace Questionnaire

/-!
# Calls of targets

A session that runs targets can keep a record of its calls.  Without the record it is the session
itself, so what holds of all calls on record holds of all calls.

* `Call` — a target with the arguments that are passed to it.
* `Recorded` — a part of a session that keeps a record of calls.
* `Setup.repeatRecorded_erases` — without the record, the loop is `Setup.repeatRun`.
* `Setup.calls_all` — what holds of the call after every run of questions holds of all calls.
-/

/-- A call of a target. -/
structure Call where
  target : Target
  /-- What has been collected. -/
  collected : Arguments
  /-- What was given beforehand. -/
  overrides : Arguments

/-- The arguments that are passed. -/
def Call.arguments (call : Call) : Arguments := call.collected.merge call.overrides

/-- A part of a session that keeps a record of calls. -/
abbrev Recorded (α : Type) := EStateM Stop (Session × List Call) α

namespace Recorded

variable {α β : Type}

/-! ### Records -/

/-- A part of a session without calls. -/
def lift (x : Dialogue α) : Recorded α := fun state =>
  match x.run state.1 with
  | .ok a τ => .ok a (τ, state.2)
  | .error stop τ => .error stop (τ, state.2)

/-- Puts a call on record. -/
def record (call : Call) : Recorded Unit := modify fun state => (state.1, state.2 ++ [call])

/-- A result without the record. -/
def forget : EStateM.Result Stop (Session × List Call) α → EStateM.Result Stop Session α
  | .ok a state => .ok a state.1
  | .error stop state => .error stop state.1

/-- The record after a part of a session, however that ends. -/
def callsOf : EStateM.Result Stop (Session × List Call) α → List Call
  | .ok _ state => state.2
  | .error _ state => state.2

/-! ### Without the record -/

/-- Without the record, the one is the other. -/
def Erases (x : Recorded α) (y : Dialogue α) : Prop :=
  ∀ σ calls, forget (x.run (σ, calls)) = y.run σ

/-- Doing nothing erases to doing nothing. -/
theorem Erases.pure (a : α) : Erases (pure a) (pure a) := by
  intro σ calls
  rfl

/-- A part of a session that records nothing erases to itself. -/
theorem Erases.lift (x : Dialogue α) : Erases (lift x) x := by
  intro σ calls
  show forget (match x.run σ with
    | .ok a τ => .ok a (τ, calls)
    | .error stop τ => .error stop (τ, calls)) = x.run σ
  cases x.run σ <;> rfl

/-- Recording a call erases to doing nothing. -/
theorem Erases.record (call : Call) : Erases (record call) (Pure.pure ()) := by
  intro σ calls
  rfl

/-- Two parts in turn erase to what each of them erases to. -/
theorem Erases.bind {x : Recorded α} {y : Dialogue α} {f : α → Recorded β} {g : α → Dialogue β}
    (hx : Erases x y) (hf : ∀ a, Erases (f a) (g a)) : Erases (x >>= f) (y >>= g) := by
  intro σ calls
  have hfirst := hx σ calls
  rw [EStateM.run_bind, EStateM.run_bind, ← hfirst]
  -- A part that stops leaves out the rest on both sides.
  cases x.run (σ, calls) with
  | ok a state => exact hf a state.1 state.2
  | error stop state => rfl

/-! ### Properties of calls -/

/-- If all calls on record had a property before, they have it afterwards. -/
def Keeps (P : Call → Prop) (x : Recorded α) : Prop :=
  ∀ σ calls, (∀ call ∈ calls, P call) → ∀ call ∈ callsOf (x.run (σ, calls)), P call

variable {P : Call → Prop}

/-- Doing nothing records no call. -/
theorem Keeps.pure (a : α) : Keeps P (Pure.pure a) := by
  intro σ calls h
  exact h

/-- A part of a session records no call. -/
theorem Keeps.lift (x : Dialogue α) : Keeps P (lift x) := by
  intro σ calls h call hcall
  have hsame : callsOf ((Recorded.lift x).run (σ, calls)) = calls := by
    show callsOf (match x.run σ with
      | .ok a τ => .ok a (τ, calls)
      | .error stop τ => .error stop (τ, calls)) = calls
    cases x.run σ <;> rfl
  rw [hsame] at hcall
  exact h call hcall

/-- Recording a call keeps to calls of its kind. -/
theorem Keeps.record {call : Call} (hcall : P call) : Keeps P (record call) := by
  intro σ calls h other hother
  have hmem : other ∈ calls ++ [call] := hother
  rcases List.mem_append.mp hmem with hmem | hmem
  · exact h other hmem
  · obtain rfl := List.mem_singleton.mp hmem
    exact hcall

/-- Two parts in turn keep to calls of a kind if each of them does. -/
theorem Keeps.bind {x : Recorded α} {f : α → Recorded β} (hx : Keeps P x)
    (hf : ∀ a, Keeps P (f a)) : Keeps P (x >>= f) := by
  intro σ calls h call hcall
  have hfirst := hx σ calls h
  rw [EStateM.run_bind] at hcall
  cases hrun : x.run (σ, calls) with
  | ok a state =>
    rw [hrun] at hcall hfirst
    exact hf a state.1 state.2 hfirst call hcall
  | error stop state =>
    -- the part has stopped, so the record is the one that it has left
    rw [hrun] at hcall hfirst
    exact hfirst call hcall

/-- After a part without calls, only what that part can give need be considered. -/
theorem Keeps.lift_bind {x : Dialogue α} {f : α → Recorded β}
    (hf : ∀ σ a τ, x.run σ = .ok a τ → Keeps P (f a)) : Keeps P (Recorded.lift x >>= f) := by
  intro σ calls h call hcall
  -- Lifting adds nothing to the calls, and those of the second part start from there.
  have hlift : (Recorded.lift x).run (σ, calls) = match x.run σ with
      | .ok a τ => .ok a (τ, calls)
      | .error stop τ => .error stop (τ, calls) := rfl
  rw [EStateM.run_bind, hlift] at hcall
  cases hrun : x.run σ with
  | ok a τ =>
    rw [hrun] at hcall
    exact hf σ a τ hrun τ calls h call hcall
  | error stop τ =>
    rw [hrun] at hcall
    exact h call hcall

end Recorded

/-! ### The loop with its record -/

namespace Setup

open Recorded (lift record)

/-- `Setup.run` with a record. -/
def runRecorded (s : Setup) (t : Target) (overrides : Arguments) : Recorded (Option Json) := do
  let c ← lift (s.collect t.signature overrides)
  let call : Call := ⟨t, c.arguments, overrides⟩
  record call
  lift (invoke call.target call.arguments)

/-- `Setup.runAndShow` with a record. -/
def showRecorded (s : Setup) (t : Target) (overrides : Arguments) : Recorded Unit := do
  match ← s.runRecorded t overrides with
  | some result => lift (Dialogue.note (.printed result))
  | none => return ()

/-- `Setup.wantsAgain` with a record. -/
def againRecorded (s : Setup) : Recorded Bool := do
  match ← (s.forTarget Rerun.target false).runRecorded Rerun.target Arguments.empty with
  | some (.bool again) => return again
  | _ => return false

/-- `Setup.repeatRounds` with a record. -/
def roundsRecorded (s : Setup) (t : Target) (overrides : Arguments) :
    (rounds : Nat) → Recorded Unit
  | 0 => return ()
  | rounds + 1 => do
    s.showRecorded t overrides
    if ← s.againRecorded then s.roundsRecorded t overrides rounds

/-- `Setup.repeatRun` with a record. -/
def repeatRecorded (s : Setup) (t : Target) (overrides : Arguments) : Recorded Unit := do
  if t.name == Rerun.target.name then s.showRecorded t overrides
  else s.roundsRecorded t overrides ((← lift get).answers.length + 1)

/-- All calls of targets in a session. -/
def calls (s : Setup) (t : Target) (overrides : Arguments) (σ : Session) : List Call :=
  Recorded.callsOf ((s.repeatRecorded t overrides).run (σ, []))

/-! ### The record changes nothing -/

open Recorded (Erases)

open Recorded (Keeps)

variable {s : Setup} {t : Target} {overrides : Arguments} {P : Call → Prop}

/-- A run records a call with what has been collected, and no other. -/
theorem runRecorded_keeps (h : ∀ σ c τ, (s.collect t.signature overrides).run σ = .ok c τ →
    P ⟨t, c.arguments, overrides⟩) : Keeps P (s.runRecorded t overrides) := by
  unfold runRecorded
  apply Keeps.lift_bind
  intro σ c τ hcollect
  apply Keeps.bind (Keeps.record (h σ c τ hcollect))
  intro _
  exact Keeps.lift _

/-- Reporting the result adds no call. -/
theorem showRecorded_keeps (h : Keeps P (s.runRecorded t overrides)) :
    Keeps P (s.showRecorded t overrides) := by
  unfold showRecorded
  apply Keeps.bind h
  intro result
  cases result with
  | none => exact Keeps.pure ()
  | some result => exact Keeps.lift _

/-- The question whether to go on records the call of its own target only. -/
theorem againRecorded_keeps
    (h : Keeps P ((s.forTarget Rerun.target false).runRecorded Rerun.target Arguments.empty)) :
    Keeps P s.againRecorded := by
  unfold againRecorded
  apply Keeps.bind h
  intro result
  split
  · exact Keeps.pure _
  · exact Keeps.pure _

/-- The calls of some rounds are those of the target and those of the question. -/
theorem roundsRecorded_keeps (htarget : Keeps P (s.runRecorded t overrides))
    (hrerun : Keeps P
      ((s.forTarget Rerun.target false).runRecorded Rerun.target Arguments.empty))
    (rounds : Nat) : Keeps P (s.roundsRecorded t overrides rounds) := by
  induction rounds with
  | zero => exact Keeps.pure ()
  | succ rounds ih =>
    rw [roundsRecorded]
    apply Keeps.bind (showRecorded_keeps htarget)
    intro _
    apply Keeps.bind (againRecorded_keeps hrerun)
    intro again
    cases again with
    | false => exact Keeps.pure ()
    | true => exact ih

/-- Every call comes after a run of questions, for the target itself or for the one that asks
    whether it runs again. -/
theorem calls_all
    (htarget : ∀ σ c τ, (s.collect t.signature overrides).run σ = .ok c τ →
      P ⟨t, c.arguments, overrides⟩)
    (hrerun : t.name ≠ Rerun.target.name → ∀ σ c τ,
      ((s.forTarget Rerun.target false).collect Rerun.target.signature Arguments.empty).run σ
        = .ok c τ → P ⟨Rerun.target, c.arguments, Arguments.empty⟩) (σ : Session) :
    ∀ call ∈ s.calls t overrides σ, P call := by
  have hkeeps : Keeps P (s.repeatRecorded t overrides) := by
    unfold repeatRecorded
    split
    · exact showRecorded_keeps (runRecorded_keeps htarget)
    · rename_i hname
      -- Only a target that is not itself the question by yes or no is followed by it.
      have hother : t.name ≠ Rerun.target.name := by simpa using hname
      apply Keeps.bind (Keeps.lift (P := P) get)
      intro _
      exact roundsRecorded_keeps (runRecorded_keeps htarget) (runRecorded_keeps (hrerun hother)) _
  exact hkeeps σ [] (by simp)

end Setup

end Questionnaire
