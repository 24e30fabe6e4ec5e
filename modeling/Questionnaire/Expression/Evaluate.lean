import Questionnaire.Expression.Builtin
import Questionnaire.Expression.Tree
import Questionnaire.Number.Read

namespace Questionnaire.Expression

/-!
# Evaluation

The operands of an operator are evaluated from left to right, all of them, before the operator
looks at any; the first fault wins.

- `apply`: an operator on the values of its operands.
- `evalTree`: the value of a tree.
- `evaluate`: the value of a text.
-/

/-! ### Operators on values -/

/-- An operation on two numbers.  On two integers it is `exact`, which fails outside the range;
    otherwise both widen. -/
def arithmetic (operation : IntegerOperation) (exact : Int → Int → Option Int)
    (rounded : Float → Float → Float) (a b : Value) : Except Fault Value := do
  -- Both operands are looked at first, so a fault names the first one that is no number.
  let x ← asNumber a
  let y ← asNumber b
  match a, b with
  | .int i, .int j => match (exact i.toInt j.toInt).bind Number.int64OfInt? with
    | some k => .ok (.int k)
    | none => .error (.failure (.integerRange operation i j))
  | _, _ => .ok (.float (rounded x y))

/-- The quotient toward zero. -/
def quotient? (i j : Int) : Option Int := if j = 0 then none else some (i.tdiv j)

/-- The remainder that goes with the quotient toward zero; there is none where the quotient leaves
    the range. -/
def remainder? (i j : Int) : Option Int :=
  (quotient? i j).bind fun q => (Number.int64OfInt? q).map fun _ => i.tmod j

/-- The sum of two numbers or the concatenation of two strings. -/
def sum (a b : Value) : Except Fault Value := do
  checkNumberOrString a
  checkNumberOrString b
  match a, b with
  | .str s, .str t => .ok (.str (s ++ t))
  | .str _, _ | _, .str _ => .error (.failure (.mixedSum (shapeName a) (shapeName b)))
  | _, _ => arithmetic .add (fun i j => some (i + j)) (· + ·) a b

/-- A comparison of two strings by bytes, of two integers, or of two numbers. -/
def comparison (onStrings : String → String → Bool) (onIntegers : Int64 → Int64 → Bool)
    (onNumbers : Float → Float → Bool) (a b : Value) : Except Fault Value := do
  checkNumberOrString a
  checkNumberOrString b
  match a, b with
  | .str s, .str t => .ok (.bool (onStrings s t))
  | .int i, .int j => .ok (.bool (onIntegers i j))
  | _, _ => .ok (.bool (onNumbers (← asNumber a) (← asNumber b)))

/-- The negation of a number. -/
def negation (a : Value) : Except Fault Value := do
  match a with
  | .int i => match Number.int64OfInt? (-i.toInt) with
    | some k => .ok (.int k)
    | none => .error (.failure (.negationRange i))
  | _ => .ok (.float (-(← asNumber a)))

/-- An operator of two operands. -/
def binary (f : Value → Value → Except Fault Value) : List Value → Except Fault Value
  | [a, b] => f a b
  | operands => .error (.failure (.operandCount 2 operands.length))

/-- An operator of one operand. -/
def unary (f : Value → Except Fault Value) : List Value → Except Fault Value
  | [a] => f a
  | operands => .error (.failure (.operandCount 1 operands.length))

/-- The last of several values, or the empty value. -/
def lastOf : List Value → Value
  | [] => .none
  | [v] => v
  | _ :: rest => lastOf rest

/-- An operator on the values of its operands. -/
def apply (op : Operator) (operands : List Value) : Except Fault Value :=
  match op with
  | .root => .ok (operands.headD .none)
  | .add => binary sum operands
  | .subtract =>
    binary (arithmetic .subtract (fun i j => some (i - j)) (· - ·)) operands
  | .multiply =>
    binary (arithmetic .multiply (fun i j => some (i * j)) (· * ·)) operands
  | .divide => binary (arithmetic .divide quotient? (· / ·)) operands
  | .modulo => binary (arithmetic .modulo remainder? Number.remainder) operands
  | .power => binary (fun a b => do .ok (.float (Float.pow (← asNumber a) (← asNumber b)))) operands
  | .negate => unary negation operands
  -- Any two values may be equal, but only two of a kind have an order.
  | .equal => binary (fun a b => .ok (.bool (a == b))) operands
  | .notEqual => binary (fun a b => .ok (.bool (!(a == b)))) operands
  | .greater =>
    binary (comparison (fun s t => decide (t < s)) (fun i j => decide (j < i)) (fun x y => y < x))
      operands
  | .less =>
    binary (comparison (fun s t => decide (s < t)) (fun i j => decide (i < j)) (fun x y => x < y))
      operands
  | .greaterEqual =>
    binary (comparison (fun s t => !decide (s < t)) (fun i j => decide (j ≤ i)) (fun x y => y ≤ x))
      operands
  | .lessEqual =>
    binary (comparison (fun s t => !decide (t < s)) (fun i j => decide (i ≤ j)) (fun x y => x ≤ y))
      operands
  -- Both operands have been evaluated; nothing is left out if the first one decides.
  | .and => binary (fun a b => do
      let p ← asBoolean a
      let q ← asBoolean b
      .ok (.bool (p && q))) operands
  | .or => binary (fun a b => do
      let p ← asBoolean a
      let q ← asBoolean b
      .ok (.bool (p || q))) operands
  | .not => unary (fun a => do .ok (.bool (!(← asBoolean a)))) operands
  -- There is nothing to assign to.
  | .assign _ => .error (.failure .assignment)
  | .tuple => .ok (.seq operands)
  | .chain => .ok (lastOf operands)
  | .constant value => .ok value
  | .target name => .ok (.str name)
  | .variable name => .error (.failure (.unboundVariable name))
  | .call name => unary (fun v => match function? name with
      | some f => f v
      | none => .error (.failure (.unboundFunction name))) operands

/-! ### Trees and texts -/

mutual

/-- The value of a tree. -/
def evalTree : Tree → Except Fault Value
  | .bare op => apply op []
  | .over op earlier latest => do
    let before ← evalEarlier earlier
    let last ← evalTree latest
    apply op (last :: before).reverse

/-- The values of the earlier operands, of which the latest comes first. -/
def evalEarlier : List Tree → Except Fault (List Value)
  | [] => .ok []
  | t :: earlier => do
    let before ← evalEarlier earlier
    let value ← evalTree t
    .ok (value :: before)

end

/-- The tree that a text writes. -/
def parse (cs : List Char) : Except Failure Tree := do tree (← tokens (← lexemes cs))

/-- The value of the expression that a text writes. -/
def evaluate (cs : List Char) : Except Fault Value :=
  match parse cs with
  | .ok t => evalTree t
  | .error cause => .error (.failure cause)

end Questionnaire.Expression
