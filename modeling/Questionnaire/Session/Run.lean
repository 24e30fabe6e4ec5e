import Questionnaire.Registry
import Questionnaire.Session.Collect

namespace Questionnaire

/-!
# Running targets

- `chainText`: the text of a failure with its causes; `Outcome.result` is what a run gives.
- `Setup.run`: collects arguments and runs a target with them.
- `Setup.repeatRun`: runs a target until the user has had enough.
-/

/-! ### Failures -/

/-- A text whose lines after the first are indented. -/
def indented (width : Nat) (text : String) : String :=
  String.ofList (Text.replaceAll ['\n'] ('\n' :: List.replicate width ' ') text.toList)

/-- A cause with its number, right-aligned. -/
def numbered (index : Nat) (cause : String) : String :=
  let digits := Text.decimal index
  String.ofList (List.replicate (5 - digits.length) ' ' ++ digits) ++ ": " ++ indented 7 cause

/-- A failure with its causes: a single cause is indented, several are numbered. -/
def chainText : List String → String
  | [] => ""
  | [failure] => failure
  | [failure, cause] => failure ++ "\n\nCaused by:\n    " ++ indented 4 cause
  | failure :: causes =>
    failure ++ "\n\nCaused by:"
      ++ String.join (causes.zipIdx.map fun (cause, i) => "\n" ++ numbered i cause)

/-- The result of a run, or the text about its failure. -/
def Outcome.result : Outcome → Except String Json
  | .done result => .ok result
  | .failed chain => .error (chainText chain)
  | .crashed message => .error ("panicked: " ++ message.getD "unknown panic")

namespace Setup

/-! ### Runs -/

/-- Runs a target with arguments, and reports a failure. -/
def invoke (t : Target) (a : Arguments) : Dialogue (Option Json) := do
  let (outcome, files) := t.invoke a (← Dialogue.files)
  -- Files that have been written stay, whatever the result is.
  modify fun s => { s with files }
  match outcome.result with
  | .ok result => return some result
  | .error message =>
    Dialogue.note (.failed t.name message)
    Dialogue.note (.reported ⟨"Runtime Exception", message, none⟩)
    return none

/-- Collects arguments and runs a target with them and the overrides. -/
def run (s : Setup) (t : Target) (overrides : Arguments) : Dialogue (Option Json) := do
  let c ← s.collect t.signature overrides
  invoke t (c.arguments.merge overrides)

/-- The setup for another target. -/
def forTarget (s : Setup) (t : Target) (enableSaves : Bool) : Setup :=
  { s with functions := t.functions, enableSaves }

/-- Runs a target and shows its result. -/
def runAndShow (s : Setup) (t : Target) (overrides : Arguments) : Dialogue Unit := do
  match ← s.run t overrides with
  | some result => Dialogue.note (.printed result)
  | none => return ()

/-- Whether the user wants another run. -/
def wantsAgain (s : Setup) : Dialogue Bool := do
  match ← (s.forTarget Rerun.target false).run Rerun.target Arguments.empty with
  | some (.bool again) => return again
  | _ => return false

/-- Runs a target, and again as long as the user wants; `rounds` bounds the number of runs. -/
def repeatRounds (s : Setup) (t : Target) (overrides : Arguments) : (rounds : Nat) → Dialogue Unit
  | 0 => return ()
  | rounds + 1 => do
    s.runAndShow t overrides
    if ← s.wantsAgain then s.repeatRounds t overrides rounds

/-- Runs a target until the user has had enough.  Each further run takes an answer.  The question
    itself runs only once. -/
def repeatRun (s : Setup) (t : Target) (overrides : Arguments) : Dialogue Unit := do
  if t.name == Rerun.target.name then s.runAndShow t overrides
  else s.repeatRounds t overrides ((← get).answers.length + 1)

end Setup

end Questionnaire
