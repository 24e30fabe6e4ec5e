import Questionnaire.Number.Binary
import Questionnaire.Text.Digits

namespace Questionnaire.Number

open Questionnaire.Text (readDigits?)

/-!
# Reading numbers

- `readInt?`: a signed integer of 64 bits.
- `readFloat?`: a floating point number.  Digits stand before or after an optional point, an
  exponent may follow, a sign may come first; infinity and not-a-number have names in any case.
-/

/-! ### Signs -/

/-- Splits a sign off the front of a text; the flag tells whether it is a minus. -/
def splitSign : List Char → Bool × List Char
  | '-' :: rest => (true, rest)
  | '+' :: rest => (false, rest)
  | cs => (false, cs)

/-! ### Integers -/

/-- The integer within the range of 64 bits, if it is in that range. -/
def int64OfInt? (i : Int) : Option Int64 :=
  if Int64.minValue.toInt ≤ i ∧ i ≤ Int64.maxValue.toInt then some (Int64.ofInt i) else none

/-- The integer written by an optional sign and digits in base `base`. -/
def readIntIn? (base : Nat) (cs : List Char) : Option Int64 :=
  let (negative, ds) := splitSign cs
  (readDigits? base ds).bind fun n => int64OfInt? (if negative then -n else n)

/-- The integer written by an optional sign and decimal digits. -/
def readInt? (cs : List Char) : Option Int64 := readIntIn? 10 cs

/-! ### Floating point numbers -/

/-- The number nearest to `n * 10 ^ e`, where `n` has at most `count` digits.  Exponents far
    outside the range of the format are settled without computing the power. -/
def nearest (n count : Nat) (e : Int) : Float :=
  if n == 0 then 0
  else if e > 400 then 1.0 / 0.0
  else if e + count < -400 then 0
  else Float.ofScientific n (e < 0) e.natAbs

/-- The exponent after a mantissa: nothing, or `e` with an optional sign and digits. -/
def readExponent? : List Char → Option Int
  | [] => some 0
  | c :: rest =>
    if c == 'e' || c == 'E' then
      let (negative, ds) := splitSign rest
      (readDigits? 10 ds).map fun n => if negative then -n else n
    else none

/-- The magnitude written by digits with an optional point and an optional exponent. -/
def readMagnitude? (cs : List Char) : Option Float :=
  let whole := cs.takeWhile Char.isDigit
  let rest := cs.dropWhile Char.isDigit
  let (fraction, rest) := match rest with
    | '.' :: rest => (rest.takeWhile Char.isDigit, rest.dropWhile Char.isDigit)
    | _ => ([], rest)
  let ds := whole ++ fraction
  -- The point only moves the exponent.
  match readDigits? 10 ds, readExponent? rest with
  | some n, some e => some (nearest n ds.length (e - fraction.length))
  | _, _ => none

/-- The floating point number written by a text. -/
def readFloat? (cs : List Char) : Option Float :=
  let (negative, magnitude) := splitSign cs
  let name := String.ofList (magnitude.map Char.toLower)
  let x := if name == "inf" || name == "infinity" then some (1.0 / 0.0)
    else if name == "nan" then some (0.0 / 0.0)
    else readMagnitude? magnitude
  x.map fun x => if negative then -x else x

end Questionnaire.Number
