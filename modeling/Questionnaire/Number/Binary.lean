import Questionnaire.Number.Power

namespace Questionnaire.Number

/-!
# Binary numbers, exactly

A finite floating point number is an integer times a power of two.  Exact work on such numbers
(printing, remainders, fractions) happens on that pair of integers.

- `Binary`: a magnitude `mantissa * 2 ^ exponent`.
- `Binary.ofFloat`: the magnitude of a finite number; `isNegative` gives its sign.
- `ofBinary`: the number with a given sign and magnitude.
-/

/-- The magnitude `mantissa * 2 ^ exponent`. -/
structure Binary where
  mantissa : Nat
  exponent : Int
  /-- The next smaller number is nearer than the next larger one. -/
  narrowBelow : Bool
deriving Repr, DecidableEq

/-- The magnitude of a finite number. -/
def Binary.ofFloat (x : Float) : Binary :=
  let bits : Nat := x.toBits.toNat
  let field : Nat := bits / twoTo 52 % twoTo 11
  let fraction : Nat := bits % twoTo 52
  if field == 0 then ⟨fraction, -1074, false⟩
  else ⟨twoTo 52 + fraction, (field : Int) - 1075, fraction == 0 && field > 1⟩

/-- Whether the sign bit is set. -/
def isNegative (x : Float) : Bool := twoTo 63 ≤ x.toBits.toNat

/-- The number with the given sign and magnitude `n * 2 ^ e`, for magnitudes that are exact. -/
def ofBinary (negative : Bool) (n : Nat) (e : Int) : Float :=
  let magnitude := if e < 0 then Float.ofNat n / Float.ofNat (twoTo (e.natAbs / 2))
      / Float.ofNat (twoTo (e.natAbs - e.natAbs / 2))
    else Float.ofNat (n * twoTo e.natAbs)
  if negative then -magnitude else magnitude

/-- Whether a finite number is an integer. -/
def isIntegral (x : Float) : Bool :=
  let b := Binary.ofFloat x
  x.isFinite && (0 ≤ b.exponent || b.mantissa % twoTo b.exponent.natAbs == 0)

/-- The integer part of a finite number, toward zero. -/
def integerPart (x : Float) : Int :=
  let b := Binary.ofFloat x
  let n : Nat := if 0 ≤ b.exponent then b.mantissa * twoTo b.exponent.natAbs
    else b.mantissa / twoTo b.exponent.natAbs
  if isNegative x then -n else n

/-- The integer part of a number, held within `low` and `high`; not a number counts as zero. -/
def clampedInteger (low high : Int) (x : Float) : Int :=
  if x.isNaN then 0
  else if x.isFinite then max low (min high (integerPart x))
  else if isNegative x then low else high

end Questionnaire.Number
