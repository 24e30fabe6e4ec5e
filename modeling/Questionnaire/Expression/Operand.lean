import Questionnaire.Expression.Failure

namespace Questionnaire.Expression

/-!
# Operands

Each operator and function asks for operands of certain shapes.  Every question below either
gives the content of a value or fails with what was wanted.
-/

/-- The string of a value. -/
def asString : Value → Except Fault String
  | .str s => .ok s
  | v => .error (.failure (.unexpected .string v))

/-- The integer of a value. -/
def asInteger : Value → Except Fault Int64
  | .int i => .ok i
  | v => .error (.failure (.unexpected .integer v))

/-- The truth value of a value. -/
def asBoolean : Value → Except Fault Bool
  | .bool b => .ok b
  | v => .error (.failure (.unexpected .boolean v))

/-- The number of a value; integers widen. -/
def asNumber (v : Value) : Except Fault Float :=
  match v.asFloat? with
  | some x => .ok x
  | none => .error (.failure (.unexpected .number v))

/-- Fails unless a value is a number or a string. -/
def checkNumberOrString : Value → Except Fault Unit
  | .str _ | .int _ | .float _ => .ok ()
  | v => .error (.failure (.unexpected .numberOrString v))

/-- The items of a tuple. -/
def asTuple : Value → Except Fault (List Value)
  | .seq items => .ok items
  | v => .error (.failure (.unexpected .tuple v))

/-- The items of a pair. -/
def asPair (v : Value) : Except Fault (Value × Value) := do
  match ← asTuple v with
  | [a, b] => .ok (a, b)
  | _ => .error (.failure (.unexpected (.tupleOf 2) v))

/-- The items of a triple. -/
def asTriple (v : Value) : Except Fault (Value × Value × Value) := do
  match ← asTuple v with
  | [a, b, c] => .ok (a, b, c)
  | _ => .error (.failure (.unexpected (.tupleOf 3) v))

/-- Fails unless a value can be looked for in a tuple. -/
def checkScalar : Value → Except Fault Unit
  | .str _ | .int _ | .float _ | .bool _ => .ok ()
  | v => .error (.failure (.unexpectedShape ["String", "Int", "Float", "Boolean"] v))

end Questionnaire.Expression
