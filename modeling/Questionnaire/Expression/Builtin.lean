import Questionnaire.Expression.Operand
import Questionnaire.Number.Arithmetic
import Questionnaire.Number.Hyperbolic
import Questionnaire.Text.Blank
import Questionnaire.Text.Case

namespace Questionnaire.Expression

/-!
# Functions of expressions

Every function takes one value, which is a tuple when it is called with several arguments.

- `Function`: the type of the functions.
- `listOf`: the function behind list brackets; it drops the marker in front of the items.
- `function?`: the function of a name.
-/

/-- A function of expressions. -/
abbrev Function := Value → Except Fault Value

/-! ### Families -/

/-- A function of one number. -/
def ofNumber (f : Float → Float) : Function := fun v => do .ok (.float (f (← asNumber v)))

/-- A function of two numbers. -/
def ofNumbers (f : Float → Float → Float) : Function := fun v => do
  let (a, b) ← asPair v
  .ok (.float (f (← asNumber a) (← asNumber b)))

/-- A test of one number. -/
def testOfNumber (f : Float → Bool) : Function := fun v => do .ok (.bool (f (← asNumber v)))

/-- A function of two integers. -/
def ofIntegers (f : Int64 → Int64 → Int64) : Function := fun v => do
  let (a, b) ← asPair v
  .ok (.int (f (← asInteger a) (← asInteger b)))

/-- A function of one string. -/
def ofString (f : String → String) : Function := fun v => do .ok (.str (f (← asString v)))

/-! ### Numbers -/

/-- A finite number other than zero, with a full mantissa. -/
def isNormal (x : Float) : Bool :=
  x.isFinite && Number.twoTo 52 ≤ (Number.Binary.ofFloat x).mantissa

/-- The magnitude of a number, which stays an integer if it is one. -/
def magnitude : Function
  | .int i => .ok (.int (if i < 0 then -i else i))
  | .float x => .ok (.float x.abs)
  | v => .error (.failure (.unexpected .number v))

/-- The logarithm of a number to a base. -/
def logarithm (x base : Float) : Float := x.log / base.log

/-- The best integer and the best floating point number of a tuple of numbers, starting from a
    given one of each. -/
def extremes (pickInt : Int64 → Int64 → Int64) (pick : Float → Float → Float) :
    Int64 → Float → List Value → Except Fault (Int64 × Float)
  | i, x, [] => .ok (i, x)
  | i, x, .int j :: rest => extremes pickInt pick (pickInt i j) x rest
  | i, x, .float y :: rest => extremes pickInt pick i (pick x y) rest
  | _, _, v :: _ => .error (.failure (.unexpected .number v))

/-- The smallest number of a tuple.  The smallest integer wins over the smallest floating point
    number only if it is strictly smaller. -/
def least : Function := fun v => do
  let (i, x) ← extremes min Number.smaller Int64.maxValue (1.0 / 0.0) (← asTuple v)
  .ok (if Value.widen i < x then .int i else .float x)

/-- The largest number of a tuple.  The largest integer wins over the largest floating point
    number only if it is strictly larger. -/
def greatest : Function := fun v => do
  let (i, x) ← extremes max Number.larger Int64.minValue (-1.0 / 0.0) (← asTuple v)
  .ok (if x < Value.widen i then .int i else .float x)

/-! ### Values of any shape -/

/-- The name of a value's shape. -/
def shapeOf : Function := fun v => .ok <| .str <| match v with
  | .none => "empty"
  | .bool _ => "boolean"
  | .int _ => "int"
  | .float _ => "float"
  | .str _ => "string"
  | .seq _ => "tuple"
  | .function _ => "function"

/-- One of two values, chosen by a truth value. -/
def choose : Function := fun v => do
  let (condition, yes, no) ← asTriple v
  .ok (if ← asBoolean condition then yes else no)

/-- Whether a tuple holds a scalar. -/
def holds : Function := fun v => do
  let (items, item) ← asPair v
  match items with
  | .seq items =>
    checkScalar item
    .ok (.bool (items.any (· == item)))
  | other => .error (.failure (.unexpected .tuple other))

/-- Whether a tuple holds one of the scalars of another tuple. -/
def holdsAny : Function := fun v => do
  let (items, wanted) ← asPair v
  match items, wanted with
  | .seq items, .seq wanted =>
    wanted.forM checkScalar
    .ok (.bool (wanted.any fun item => items.any (· == item)))
  | .seq _, other => .error (.failure (.unexpected .tuple other))
  | other, _ => .error (.failure (.unexpected .tuple other))

/-- The number of bytes of a string, or of items of a tuple. -/
def size : Function
  | .str s => .ok (.int (Int64.ofNat s.utf8ByteSize))
  | .seq items => .ok (.int (Int64.ofNat items.length))
  | v => .error (.failure (.unexpectedShape ["String", "Tuple"] v))

/-- The function behind list brackets: a tuple without its first item. -/
def listOf : Function
  | .seq items => .ok (.seq (items.drop 1))
  | _ => .ok (.seq [])

/-! ### Strings -/

mutual

/-- A value inside the text of a tuple. -/
def display : Value → String
  | .none => "()"
  | .bool b => if b then "true" else "false"
  | .int i => String.ofList (Value.writtenInt i)
  | .float x => String.ofList (Number.plain x)
  | .str s => "\"" ++ s ++ "\""
  | .seq items => "(" ++ displayItems items ++ ")"
  | .function name => name

/-- The items of a tuple, with commas between them. -/
def displayItems : List Value → String
  | [] => ""
  | [item] => display item
  | item :: rest => display item ++ ", " ++ displayItems rest

end

/-- The text of a value; a string is its own text. -/
def textOf : Function
  | .str s => .ok (.str s)
  | v => .ok (.str (display v))

/-- Splits a text after `n` bytes, unless a character lies across that place. -/
def splitBytes (n : Nat) : List Char → Option (List Char × List Char)
  | [] => if n = 0 then some ([], []) else none
  | c :: rest =>
    if n = 0 then some ([], c :: rest)
    else if n < c.utf8Size then none
    else (splitBytes (n - c.utf8Size) rest).map fun (front, back) => (c :: front, back)

/-- A place in a string, as a number of bytes. -/
def asPlace (v : Value) : Except Fault Nat := do
  let i ← asInteger v
  if i < 0 then .error (.failure .invalidIndex) else .ok i.toInt.toNat

/-- The part of a string between two places, or from a place to the end. -/
def slice (s : String) (first last : Nat) : Except Fault Value :=
  if first > last || last > s.utf8ByteSize then .error (.failure .invalidIndex)
  else match splitBytes first s.toList with
    | none => .error .crash
    | some (_, back) => match splitBytes (last - first) back with
      | none => .error .crash
      | some (middle, _) => .ok (.str (String.ofList middle))

/-- A part of a string; places count bytes. -/
def substring : Function := fun v => do
  match ← asTuple v with
  | [text, first] =>
    let s ← asString text
    slice s (← asPlace first) s.utf8ByteSize
  | [text, first, last] =>
    let s ← asString text
    slice s (← asPlace first) (← asPlace last)
  | _ => .error (.failure (.unexpected (.tupleWithin 2 3) v))

/-! ### Names -/

/-- The function of a name. -/
def function? (name : String) : Option Function :=
  match name with
  | "seq" => some listOf
  | "math::ln" => some (ofNumber Float.log)
  | "math::log" => some (ofNumbers logarithm)
  | "math::log2" => some (ofNumber Float.log2)
  | "math::log10" => some (ofNumber Float.log10)
  | "math::exp" => some (ofNumber Float.exp)
  | "math::exp2" => some (ofNumber Float.exp2)
  | "math::pow" => some (ofNumbers Float.pow)
  | "math::cos" => some (ofNumber Float.cos)
  | "math::acos" => some (ofNumber Float.acos)
  | "math::cosh" => some (ofNumber Float.cosh)
  | "math::acosh" => some (ofNumber Number.inverseCosh)
  | "math::sin" => some (ofNumber Float.sin)
  | "math::asin" => some (ofNumber Float.asin)
  | "math::sinh" => some (ofNumber Float.sinh)
  | "math::asinh" => some (ofNumber Number.inverseSinh)
  | "math::tan" => some (ofNumber Float.tan)
  | "math::atan" => some (ofNumber Float.atan)
  | "math::tanh" => some (ofNumber Float.tanh)
  | "math::atanh" => some (ofNumber Number.inverseTanh)
  | "math::atan2" => some (ofNumbers Float.atan2)
  | "math::sqrt" => some (ofNumber Float.sqrt)
  | "math::cbrt" => some (ofNumber Number.cubeRoot)
  | "math::hypot" => some (ofNumbers Number.hypotenuse)
  | "math::is_nan" => some (testOfNumber Float.isNaN)
  | "math::is_finite" => some (testOfNumber Float.isFinite)
  | "math::is_infinite" => some (testOfNumber Float.isInf)
  | "math::is_normal" => some (testOfNumber isNormal)
  | "math::abs" => some magnitude
  | "floor" => some (ofNumber Float.floor)
  | "round" => some (ofNumber Float.round)
  | "ceil" => some (ofNumber Float.ceil)
  | "typeof" => some shapeOf
  | "min" => some least
  | "max" => some greatest
  | "if" => some choose
  | "contains" => some holds
  | "contains_any" => some holdsAny
  | "len" => some size
  | "str::to_lowercase" => some (ofString Text.lower)
  | "str::to_uppercase" => some (ofString Text.upper)
  | "str::trim" => some (ofString Text.trimmed)
  | "str::from" => some textOf
  | "str::substring" => some substring
  | "bitand" => some (ofIntegers (· &&& ·))
  | "bitor" => some (ofIntegers (· ||| ·))
  | "bitxor" => some (ofIntegers (· ^^^ ·))
  | "bitnot" => some fun v => do .ok (.int (~~~ (← asInteger v)))
  | "shl" => some (ofIntegers (· <<< ·))
  | "shr" => some (ofIntegers (· >>> ·))
  | _ => none

end Questionnaire.Expression
