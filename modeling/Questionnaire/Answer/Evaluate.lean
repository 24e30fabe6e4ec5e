import Questionnaire.Answer.Stretch
import Questionnaire.Expression.Evaluate
import Questionnaire.Text.Blank

namespace Questionnaire.Answer

/-!
# Evaluating answers

The value of an answer is the function that it names, if the target knows one of that name, or
else the value of the expression that it means.

- `Fault`: why an answer has no value.
- `evaluate`: the value of an answer.
-/

/-- Why an answer has no value. -/
inductive Fault where
  | blank
  | openLiteral
  /-- The expression is at fault. -/
  | expression (cause : Expression.Failure)
  /-- The evaluation ends the whole run. -/
  | crash

/-- The wording of a fault that can be reported; a crash has none. -/
def Fault.message : Fault → String
  | .blank => "No value was given."
  | .openLiteral => "Unterminated string literal"
  | .expression cause => cause.message
  | .crash => ""

/-- A fault of the expression as a fault of the answer. -/
def Fault.ofExpression : Expression.Fault → Fault
  | .failure cause => .expression cause
  | .crash => .crash

/-- An ASCII letter or underscore, followed by such characters and digits. -/
def isIdentifier : List Char → Bool
  | [] => false
  | c :: rest => (c.isAlpha || c == '_') && rest.all fun d => d.isAlphanum || d == '_'

/-- The value of the characters of an answer that is neither blank nor has blanks at its ends. -/
def evaluateTrimmed (functions : List String) (cs : List Char) : Except Fault Value :=
  let name := String.ofList cs
  if isIdentifier cs && functions.contains name then .ok (.function name)
  else match expression? cs with
    | none => .error .openLiteral
    | some code => (Expression.evaluate code).mapError Fault.ofExpression

/-- The value of an answer, where `functions` are the names of the target's functions. -/
def evaluate (functions : List String) (answer : String) : Except Fault Value :=
  match Text.trim answer.toList with
  | [] => .error .blank
  | cs => evaluateTrimmed functions cs

end Questionnaire.Answer
