import Questionnaire.Value.Basic

namespace Questionnaire

/-!
# Declared types

A parameter declares which values it takes.

- `ValueType`: the type of the declarations.
- `ValueType.isOptional`: an element of this type may be left out at the end of a tuple.
- `ValueType.accepts`: the values of a type.
-/

/-- A declared type. -/
inductive ValueType where
  | any
  | int
  /-- Integers are floating point numbers too. -/
  | float
  | bool
  | str
  | noneType
  /-- The name of a function of the target. -/
  | function
  /-- Lists of any length. -/
  | sequence (item : ValueType)
  /-- Lists with a type for each position. -/
  | tuple (items : List ValueType)
  | union (members : List ValueType)
  | optional (inner : ValueType)
  | literal (allowed : List Value)
  /-- Numbers within bounds, which belong to the range. -/
  | ranged (inner : ValueType) (low high : Option Float)
deriving Inhabited

namespace ValueType

/-! ### Equality -/

/-- Equality of bounds, by value. -/
def beqBound : Option Float → Option Float → Bool
  | none, none => true
  | some x, some y => x == y
  | _, _ => false

mutual

/-- Structural equality; values and bounds compare by value. -/
def beq : ValueType → ValueType → Bool
  | .any, .any | .int, .int | .float, .float | .bool, .bool | .str, .str | .noneType, .noneType
  | .function, .function => true
  | .sequence a, .sequence b => beq a b
  | .tuple as, .tuple bs => beqEach as bs
  | .union as, .union bs => beqEach as bs
  | .optional a, .optional b => beq a b
  | .literal as, .literal bs => as == bs
  | .ranged a low high, .ranged b low' high' =>
    beq a b && beqBound low low' && beqBound high high'
  | _, _ => false

/-- Equality of types, one by one. -/
def beqEach : List ValueType → List ValueType → Bool
  | [], [] => true
  | a :: as, b :: bs => beq a b && beqEach as bs
  | _, _ => false

end

/-- Literals and bounds are compared as numbers are. -/
instance : BEq ValueType := ⟨beq⟩

/-! ### Optional elements -/

mutual

/-- An element of this type may be left out at the end of a tuple. -/
def isOptional : ValueType → Bool
  | .optional _ | .noneType | .any => true
  | .union members => anyOptional members
  | _ => false

/-- One of the types is optional. -/
def anyOptional : List ValueType → Bool
  | [] => false
  | t :: rest => isOptional t || anyOptional rest

end

/-- The number of types that are not optional. -/
def requiredCount (types : List ValueType) : Nat := types.countP fun t => !t.isOptional

/-! ### Acceptance -/

/-- A number lies within bounds. -/
def within (low high : Option Float) (x : Float) : Bool :=
  (match low with | some l => l ≤ x | none => true)
    && (match high with | some h => x ≤ h | none => true)

mutual

/-- Whether a value satisfies a type. -/
def accepts : ValueType → Value → Bool
  | .any, _ => true
  | .int, .int _ => true
  | .float, .float _ => true
  | .float, .int _ => true
  | .bool, .bool _ => true
  | .str, .str _ => true
  | .noneType, .none => true
  | .function, .function _ => true
  | .sequence item, .seq values => values.all fun value => accepts item value
  | .tuple types, .seq values =>
    -- Types that may be omitted are counted, wherever they stand.
    requiredCount types ≤ values.length && values.length ≤ types.length
      && acceptsEach types values
  | .union members, value => acceptsSome members value
  | .optional inner, value => (match value with | .none => true | _ => false) || accepts inner value
  | .literal allowed, value => allowed.any fun a => a == value
  | .ranged inner low high, value =>
    accepts inner value && value.asFloat?.any (within low high)
  | _, _ => false

/-- Each value satisfies the type at its position, as far as both go. -/
def acceptsEach : List ValueType → List Value → Bool
  | t :: types, v :: values => accepts t v && acceptsEach types values
  | _, _ => true

/-- A value satisfies one of the types. -/
def acceptsSome : List ValueType → Value → Bool
  | [], _ => false
  | t :: types, value => accepts t value || acceptsSome types value

end

end ValueType

end Questionnaire
