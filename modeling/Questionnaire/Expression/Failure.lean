import Questionnaire.Text.Quoted
import Questionnaire.Value.Written

namespace Questionnaire.Expression

/-!
# Why an expression has no value

- `Failure`: the causes, found while reading a text, building its tree or evaluating it.
- `Failure.message`: the wording of each cause.
- `Fault`: a failure that can be reported, or a crash that ends the whole run.
-/

/-! ### Values in messages -/

mutual

/-- A value with the name of its shape, as messages show it. -/
def shown : Value → String
  | .none => "Empty"
  | .bool b => if b then "Boolean(true)" else "Boolean(false)"
  | .int i => "Int(" ++ String.ofList (Value.writtenInt i) ++ ")"
  | .float x => "Float(" ++ String.ofList (Number.token x) ++ ")"
  | .str s => "String(" ++ Text.quoted s ++ ")"
  | .seq items => "Tuple([" ++ shownItems items ++ "])"
  | .function name => "Function(" ++ name ++ ")"

/-- Values with the names of their shapes, with commas between them. -/
def shownItems : List Value → String
  | [] => ""
  | [item] => shown item
  | item :: rest => shown item ++ ", " ++ shownItems rest

end

/-- The name of a value's shape in messages about operands. -/
def shapeName : Value → String
  | .none => "Empty"
  | .bool _ => "Boolean"
  | .int _ => "Int"
  | .float _ => "Float"
  | .str _ => "String"
  | .seq _ => "Tuple"
  | .function _ => "Function"

/-! ### Causes -/

/-- What an operand or argument was expected to be. -/
inductive Wanted where
  | string
  | integer
  | boolean
  | tuple
  | number
  | numberOrString
  | tupleOf (size : Nat)
  | tupleWithin (least most : Nat)
deriving Repr, DecidableEq

/-- The wording of an expectation. -/
def Wanted.text : Wanted → String
  | .string => "a Value::String"
  | .integer => "a Value::Int"
  | .boolean => "a Value::Boolean"
  | .tuple => "a Value::Tuple"
  | .number => "a Value::Float or Value::Int"
  | .numberOrString => "a Value::Number or a Value::String"
  | .tupleOf size => s!"a Value::Tuple of length {size}"
  | .tupleWithin least most => s!"a Value::Tuple of length {least} to {most}"

/-- The integer operations whose result may lie outside the range of 64 bits. -/
inductive IntegerOperation where
  | add
  | subtract
  | multiply
  | divide
  | modulo
deriving Repr, DecidableEq

/-- The name and the sign of an integer operation in messages. -/
def IntegerOperation.wording : IntegerOperation → String × String
  | .add => ("adding", "+")
  | .subtract => ("subtracting", "-")
  | .multiply => ("multiplying", "*")
  | .divide => ("dividing", "/")
  | .modulo => ("modulating", "%")

/-- The causes of a failure. -/
inductive Failure where
  /-- A backslash in a string is followed by a character that has no escape. -/
  | illegalEscape (escaped : String)
  | unmatchedQuote
  | unmatchedComment
  /-- Half of an operator is followed by something else. -/
  | halfOperator (half : String) (next : String)
  /-- Half of an operator ends the text. -/
  | halfOperatorAtEnd (half : String)
  | unmatchedClosing
  | unmatchedOpening
  /-- Two values stand side by side, one of them in parentheses. -/
  | missingOperator
  /-- Two values stand side by side. -/
  | appendedToLeaf
  | precedenceViolation
  | operandCount (expected actual : Nat)
  | unexpected (wanted : Wanted) (actual : Value)
  | unexpectedShape (wanted : List String) (actual : Value)
  /-- A sum of a string and a number. -/
  | mixedSum (left right : String)
  | integerRange (operation : IntegerOperation) (left right : Int64)
  | negationRange (operand : Int64)
  | unboundVariable (name : String)
  | unboundFunction (name : String)
  | assignment
  | invalidIndex

/-- The wording of a failure. -/
def Failure.message : Failure → String
  | .illegalEscape escaped => "Illegal escape sequence: \\" ++ escaped
  | .unmatchedQuote => "Found an unmatched double quote '\"'."
  | .unmatchedComment => "Error: unmatched inline comment"
  | .halfOperator half next =>
    s!"Found a partial token '{half}' that should not be followed by '{next}'."
  | .halfOperatorAtEnd half =>
    s!"Found a partial token '{half}' that should be followed by another partial token."
  | .unmatchedClosing => "Found an unmatched closing parenthesis ')'."
  | .unmatchedOpening => "Found an unmatched opening parenthesis '('."
  | .missingOperator =>
    "Found an opening parenthesis that is preceded by something that does not take any arguments "
      ++ "on the right, or found a closing parenthesis that is succeeded by something that does "
      ++ "not take any arguments on the left."
  | .appendedToLeaf => "Tried to append a node to a leaf node."
  | .precedenceViolation => "Tried to append a node to another node with higher precedence."
  | .operandCount expected actual =>
    s!"An operator expected {expected} arguments, but got {actual}."
  | .unexpected wanted actual => s!"Expected {wanted.text}, but got {shown actual}."
  | .unexpectedShape wanted actual =>
    "Expected one of [" ++ String.intercalate ", " wanted ++ "], but got " ++ shown actual ++ "."
  | .mixedSum left right =>
    s!"The operator Add was called with a wrong combination of types: [{left}, {right}]"
  | .integerRange operation left right =>
    let (verb, sign) := operation.wording
    s!"Error {verb} {left.toInt} {sign} {right.toInt}"
  | .negationRange operand => s!"Error negating -{operand.toInt}"
  | .unboundVariable name =>
    "Variable identifier is not bound to anything by context: " ++ Text.quoted name ++ "."
  | .unboundFunction name =>
    "Function identifier is not bound to anything by context: " ++ Text.quoted name ++ "."
  | .assignment => "Cannot manipulate context"
  | .invalidIndex => "Tried to access a tuple or string at an invalid index"

/-- Why an evaluation gave no value. -/
inductive Fault where
  /-- The expression is at fault; the cause can be reported. -/
  | failure (cause : Failure)
  /-- A text was cut inside a character; the whole run ends. -/
  | crash

/-- A failure is a fault that can be reported. -/
instance : Coe Failure Fault := ⟨Fault.failure⟩

end Questionnaire.Expression
