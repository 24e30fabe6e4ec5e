import Questionnaire.Json.Written
import Questionnaire.Number.Arithmetic
import Questionnaire.Text.Quoted
import Questionnaire.Value.Basic

namespace Questionnaire.Json

/-!
# Decoding JSON

A decoder takes a JSON value to data of a given type, or says what does not fit.

- `Mismatch`: what does not fit, with `Mismatch.message`.
- `Decoder`: the type of decoders.
- `natural`, `int64`, `float64`, `truth`, `text`: leaves.
- `nullable`, `listOf`, `pairOf`, `tripleOf`: compound decoders.
-/

/-! ### Mismatches -/

/-- Why a JSON value does not fit. -/
inductive Mismatch where
  /-- The value has another shape. -/
  | shape (actual : Json) (expected : String)
  /-- An integer lies outside the range. -/
  | range (actual : Json) (expected : String)
  | tooFew (length : Nat) (expected : String)
  | tooMany (length : Nat)

/-- A value as messages name it. -/
def described : Json → String
  | .null => "null"
  | .bool b => if b then "boolean `true`" else "boolean `false`"
  | .int i => "integer `" ++ integer i.toInt ++ "`"
  | .large n => "integer `" ++ integer n.value ++ "`"
  | .float x => "floating point `" ++ number x ++ "`"
  | .str s => "string " ++ Text.quoted s
  | .array _ => "sequence"
  | .object _ => "map"

/-- The wording of a mismatch. -/
def Mismatch.message : Mismatch → String
  | .shape actual expected => s!"invalid type: {described actual}, expected {expected}"
  | .range actual expected => s!"invalid value: {described actual}, expected {expected}"
  | .tooFew length expected => s!"invalid length {length}, expected {expected}"
  | .tooMany length => s!"invalid length {length}, expected fewer elements in array"

/-- A decoder of data of a type. -/
abbrev Decoder (α : Type) := Json → Except Mismatch α

/-! ### Leaves -/

/-- A natural number of at most `bits` bits; `name` is the name of that range. -/
def natural (bits : Nat) (name : String) : Decoder Nat
  | .int i =>
    if 0 ≤ i.toInt ∧ i.toInt < Number.twoTo bits then .ok i.toInt.toNat
    else .error (.range (.int i) name)
  | .large n => if n.value < Number.twoTo bits then .ok n.value else .error (.range (.large n) name)
  | json => .error (.shape json name)

/-- An integer. -/
def int64 : Decoder Int64
  | .int i => .ok i
  | .large n => .error (.range (.large n) "i64")
  | json => .error (.shape json "i64")

/-- A number; integers widen. -/
def float64 : Decoder Float
  | .int i => .ok (Value.widen i)
  | .large n => .ok n.toFloat
  | .float x => .ok x
  | json => .error (.shape json "f64")

/-- A truth value. -/
def truth : Decoder Bool
  | .bool b => .ok b
  | json => .error (.shape json "a boolean")

/-- A string. -/
def text : Decoder String
  | .str s => .ok s
  | json => .error (.shape json "a string")

/-! ### Compound data -/

/-- Data or nothing, which is `null`. -/
def nullable {α : Type} (inner : Decoder α) : Decoder (Option α)
  | .null => .ok none
  | json => some <$> inner json

/-- Items of one type. -/
def listOf {α : Type} (item : Decoder α) : Decoder (List α)
  | .array items => items.mapM item
  | json => .error (.shape json "a sequence")

/-- A tuple of `size` items of one type.  The items that are there are decoded before their number
    is looked at. -/
def tupleOf {α : Type} (size : Nat) (item : Decoder α) : Decoder (List α)
  | .array items => do
    let decoded ← (items.take size).mapM item
    if items.length < size then .error (.tooFew items.length s!"a tuple of size {size}")
    else if size < items.length then .error (.tooMany items.length)
    else .ok decoded
  | json => .error (.shape json s!"a tuple of size {size}")

/-- A pair. -/
def pairOf {α : Type} (item : Decoder α) : Decoder (α × α) := fun json => do
  match ← tupleOf 2 item json with
  | [a, b] => .ok (a, b)
  | decoded => .error (.tooFew decoded.length "a tuple of size 2")

/-- A triple. -/
def tripleOf {α : Type} (item : Decoder α) : Decoder (α × α × α) := fun json => do
  match ← tupleOf 3 item json with
  | [a, b, c] => .ok (a, b, c)
  | decoded => .error (.tooFew decoded.length "a tuple of size 3")

end Questionnaire.Json
