import Questionnaire.Answer.Evaluate
import Questionnaire.Report

namespace Questionnaire.Answer

/-!
# Attempts

What comes of an answer when it is evaluated before the user's eyes.

- `Fault.report`: the report of a fault.
- `Attempt`: a value, a report, or the end of the run.
- `attempt`: the attempt at an answer.
-/

/-- The report of a fault. -/
def Fault.report (fault : Fault) (timeout : Duration) : Report :=
  ⟨"Couldn't parse input.", " Exception: " ++ fault.message, some timeout⟩

/-- What comes of an answer. -/
inductive Attempt where
  | value (v : Value)
  | rejected (report : Report)
  | crash

/-- Evaluates an answer; a report stays visible for the given time. -/
def attempt (functions : List String) (timeout : Duration) (answer : String) : Attempt :=
  match evaluate functions answer with
  | .ok v => .value v
  | .error .crash => .crash
  | .error fault => .rejected (fault.report timeout)

end Questionnaire.Answer
