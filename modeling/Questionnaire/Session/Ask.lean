import Questionnaire.Answer.Attempt
import Questionnaire.Session.Basic

namespace Questionnaire

/-!
# Asking for values

- `Setup`: what holds for a whole session.
- `Given`: a value with the answer that gave it.
- `Setup.read`: the value of an answer, whatever its type.
- `Setup.ask`: puts a question until an answer has the declared type.
-/

/-- What holds for a whole session. -/
structure Setup where
  /-- The functions that answers may refer to. -/
  functions : List String
  /-- How long a report stays visible. -/
  reportTime : Duration
  /-- The user is asked about restoring and saving. -/
  enableSaves : Bool
  /-- The directory below which configurations are saved. -/
  savesRoot : String

/-- A value, and the answer that gives it unless it is a default. -/
structure Given where
  value : Value
  token : Option String

namespace Setup

/-- A report of an error. -/
def error (s : Setup) (message : String) : Report := Report.error message s.reportTime

/-- The value of an answer.  A blank answer stands for the default. -/
def read (s : Setup) (q : Question) (answer : String) : Judgment Given :=
  let token := Text.trimmed answer
  if token.isEmpty then
    -- A default is kept as it is, without a look at the type.
    match q.default with
    | some v => .accepted ⟨v, none⟩
    | none => .refused (s.error "No value was given.")
  else match Answer.attempt s.functions s.reportTime token with
    | .value v => .accepted ⟨v, some token⟩
    | .rejected report => .refused report
    | .crash => .crashed

/-- The report of a value that does not have the declared type. -/
def misfit (s : Setup) (q : Question) (v : Value) : Report :=
  s.error s!"Type validation failed: {v.text} is not a valid {q.type.text}. Rolling back..."

/-- The value of an answer, if it has the declared type.  Nobody doubts a default. -/
def judge (s : Setup) (q : Question) (answer : String) : Judgment Given :=
  (s.read q answer).bind fun given =>
    if given.token.isNone || q.type.accepts given.value then .accepted given
    else .refused (s.misfit q given.value)

/-- Puts a question until an answer has the declared type. -/
def ask (s : Setup) (q : Question) : Dialogue Given :=
  Dialogue.put q fun files answer => (s.judge q answer, files)

/-- Puts a question that is answered by yes or no. -/
def confirm (s : Setup) (q : Question) : Dialogue Bool := do
  return (← s.ask q).value.asBool?.getD false

end Setup

end Questionnaire
