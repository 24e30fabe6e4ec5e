import Questionnaire.Number.Binary

namespace Questionnaire.Number

/-!
# Exact arithmetic

Operations whose result is computed on exact integers and then rounded at most once.

- `remainder`: what is left after the largest multiple toward zero; it has the sign of the
  first operand.
- `wrapped`: the remainder moved into the range from zero up to the modulus.
- `smaller`, `larger`: the extremes of two numbers.
- `power`: an integer power by repeated squaring.
- `hypotenuse`: the length of the diagonal of a rectangle.
- `cubeRoot`: the cube root.
-/

/-! ### Remainders -/

/-- The remainder of `x` by `y`, with the sign of `x`. -/
def remainder (x y : Float) : Float :=
  if x.isNaN || y.isNaN || x.isInf || y == 0 then 0.0 / 0.0
  else if y.isInf || x.abs < y.abs then x
  else
    let a := Binary.ofFloat x
    let b := Binary.ofFloat y
    let e := min a.exponent b.exponent
    -- Both magnitudes are whole numbers in units of the smaller exponent, so nothing is rounded.
    let side := fun (m : Binary) => m.mantissa * twoTo (m.exponent - e).toNat
    let rest := side a % side b
    ofBinary (isNegative x) rest e

/-- The remainder of `x` by `modulus`, plus the modulus when it is negative. -/
def wrapped (x modulus : Float) : Float :=
  let rest := remainder x modulus
  if rest < 0 then rest + modulus.abs else rest

/-! ### Extremes -/

/-- The smaller of two numbers; a number is smaller than not-a-number. -/
def smaller (x y : Float) : Float := if x.isNaN || y < x then y else x

/-- The larger of two numbers; a number is larger than not-a-number. -/
def larger (x y : Float) : Float := if x.isNaN || x < y then y else x

/-! ### Powers -/

/-- Multiplies `acc` by `base ^ n`, by repeated squaring; `fuel` bounds the binary digits of `n`. -/
def powerOnto (acc : Float) : (fuel : Nat) → (base : Float) → (n : Nat) → Float
  | 0, _, _ => acc
  | fuel + 1, base, n =>
    let acc := if n % 2 == 1 then acc * base else acc
    if n / 2 == 0 then acc else powerOnto acc fuel (base * base) (n / 2)

/-- The integer power of a number. -/
def power (base : Float) (n : Int) : Float :=
  let magnitude := powerOnto 1 (n.natAbs.log2 + 1) base n.natAbs
  if n < 0 then 1 / magnitude else magnitude

/-! ### Roots -/

/-- The number nearest to `n * 2 ^ e`. -/
def nearestBinary (n : Nat) (e : Int) : Float :=
  if n == 0 then 0
  else if e > 1100 then 1.0 / 0.0
  else if 0 ≤ e then Float.ofNat (n * twoTo e.toNat)
  else Float.ofScientific (n * fiveTo e.natAbs) true e.natAbs

/-- The largest number whose power is at most `n`, found bit by bit: `root` holds the bits above
    those still to be tried. -/
def integerRoot (power n : Nat) : (bits : Nat) → (root : Nat) → Nat
  | 0, root => root
  | bits + 1, root =>
    let trial := root + twoTo bits
    integerRoot power n bits (if trial.pow power ≤ n then trial else root)

/-- The number nearest to the root of `n * 2 ^ (power * e)`.  An inexact integer root gets one more
    binary digit, so that it never looks like a midpoint. -/
def rootOf (power n : Nat) (e : Int) : Float :=
  let root := integerRoot power n (n.log2 / power + 1) 0
  nearestBinary (2 * root + (if root.pow power == n then 0 else 1)) (e - 1)

/-- The length of the diagonal of a rectangle with sides `x` and `y`, rounded once. -/
def hypotenuse (x y : Float) : Float :=
  if x.isInf || y.isInf then 1.0 / 0.0
  else if x.isNaN || y.isNaN then 0.0 / 0.0
  else
    let a := Binary.ofFloat x
    let b := Binary.ofFloat y
    -- With sixty more binary places, the root has enough digits to be rounded.
    let e := min a.exponent b.exponent - 60
    let side := fun (m : Binary) => m.mantissa * twoTo (m.exponent - e).toNat
    rootOf 2 (side a * side a + side b * side b) e

/-- The cube root of a number, rounded once. -/
def cubeRoot (x : Float) : Float :=
  if !x.isFinite || x == 0 then x
  else
    let b := Binary.ofFloat x
    let e := b.exponent / 3 - 60
    let root := rootOf 3 (b.mantissa * twoTo (b.exponent - 3 * e).toNat) e
    if isNegative x then -root else root

end Questionnaire.Number
