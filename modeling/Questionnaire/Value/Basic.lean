namespace Questionnaire

/-!
# Parameter values

The closed set of shapes that a parameter can take once an answer has been evaluated.

- `Value`: the type.  Integers have 64 bits; a function value refers by name to a function that
  the target knows.
- `Value.beq`: equality by shape and content.  Integers never equal floating point numbers, and
  floating point numbers compare by value.
- `Value.asStr?`, `Value.asBool?`, `Value.asFloat?`: views of a value.
- `Value.kind`: the short name of the shape.
-/

/-- A value of a parameter. -/
inductive Value where
  | none
  | bool (b : Bool)
  | int (i : Int64)
  | float (x : Float)
  | str (s : String)
  | seq (items : List Value)
  | function (name : String)
deriving Inhabited

namespace Value

mutual

/-- Equality by shape and content. -/
def beq : Value → Value → Bool
  | .none, .none => true
  | .bool a, .bool b => a == b
  | .int a, .int b => a == b
  | .float a, .float b => a == b
  | .str a, .str b => a == b
  | .seq as, .seq bs => beqItems as bs
  | .function a, .function b => a == b
  | _, _ => false

/-- Equality of items, one by one. -/
def beqItems : List Value → List Value → Bool
  | [], [] => true
  | a :: as, b :: bs => beq a b && beqItems as bs
  | _, _ => false

end

/-- Numbers are compared as numbers, so not every value is equal to itself. -/
instance : BEq Value := ⟨beq⟩

/-- The string of a string value. -/
def asStr? : Value → Option String
  | .str s => some s
  | _ => Option.none

/-- The truth value of a truth value. -/
def asBool? : Value → Option Bool
  | .bool b => some b
  | _ => Option.none

/-- The floating point number nearest to an integer. -/
def widen (i : Int64) : Float := Float.ofInt i.toInt

/-- The number of a numeric value; integers widen. -/
def asFloat? : Value → Option Float
  | .int i => some (widen i)
  | .float x => some x
  | _ => Option.none

/-- The short name of the shape, for messages. -/
def kind : Value → String
  | .none => "None"
  | .bool _ => "bool"
  | .int _ => "int"
  | .float _ => "float"
  | .str _ => "str"
  | .seq _ => "sequence"
  | .function _ => "function"

end Value

end Questionnaire
