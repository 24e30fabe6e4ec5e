import Questionnaire.Number.Power

namespace Questionnaire

open Number (twoTo)

/-!
# JSON values

Values of the JSON data model, with integers and floating point numbers kept apart.

- `Json.Large`: the natural numbers that fit into 64 bits only without a sign.
- `Json`: the type; `Json.ofFloat` turns a number that is not finite into `null`.
- `Json.beq`: structural equality, where floating point numbers compare by value.
- `Json.hasObject`: an object occurs somewhere inside.
-/

/-- A natural number that fits into 64 bits only without a sign. -/
structure Json.Large where
  value : Nat
  low : twoTo 63 ≤ value
  high : value < twoTo 64

/-- The smallest integer that does not fit 64 bits with a sign. -/
instance : Inhabited Json.Large := ⟨⟨twoTo 63, by decide, by decide⟩⟩

/-- A JSON value. -/
inductive Json where
  | null
  | bool (b : Bool)
  | int (i : Int64)
  | large (n : Json.Large)
  | float (x : Float)
  | str (s : String)
  | array (items : List Json)
  | object (fields : List (String × Json))
deriving Inhabited

namespace Json

/-- A natural number, if it is in the range. -/
def Large.ofNat? (n : Nat) : Option Large :=
  if h : twoTo 63 ≤ n ∧ n < twoTo 64 then some ⟨n, h.1, h.2⟩ else none

/-- The nearest floating point number. -/
def Large.toFloat (n : Large) : Float := Float.ofInt n.value

/-- A floating point number, or `null` if it is not finite. -/
def ofFloat (x : Float) : Json := if x.isFinite then .float x else .null

mutual

/-- Structural equality. -/
def beq : Json → Json → Bool
  | .null, .null => true
  | .bool a, .bool b => a == b
  | .int a, .int b => a == b
  | .large a, .large b => a.value == b.value
  | .float a, .float b => a == b
  | .str a, .str b => a == b
  | .array as, .array bs => beqItems as bs
  | .object as, .object bs => beqFields as bs
  | _, _ => false

/-- Equality of items, one by one. -/
def beqItems : List Json → List Json → Bool
  | [], [] => true
  | a :: as, b :: bs => beq a b && beqItems as bs
  | _, _ => false

/-- Equality of fields, one by one. -/
def beqFields : List (String × Json) → List (String × Json) → Bool
  | [], [] => true
  | (k, a) :: as, (l, b) :: bs => k == l && beq a b && beqFields as bs
  | _, _ => false

end

/-- Numbers are compared as numbers, so not everything is equal to itself. -/
instance : BEq Json := ⟨beq⟩

mutual

/-- Whether an object occurs in the value, at any depth. -/
def hasObject : Json → Bool
  | .array items => anyHasObject items
  | .object _ => true
  | _ => false

/-- Whether an object occurs in one of the values. -/
def anyHasObject : List Json → Bool
  | [] => false
  | item :: rest => hasObject item || anyHasObject rest

end

/-- The value of a field, if the value is an object that has it. -/
def field? (json : Json) (name : String) : Option Json :=
  match json with
  | .object fields => fields.lookup name
  | _ => none

end Json

end Questionnaire
