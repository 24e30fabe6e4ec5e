import Questionnaire.Number.Shortest
import Questionnaire.Text.Digits

namespace Questionnaire.Number

open Questionnaire.Text (decimal signedDecimal)

/-!
# Written numbers

Three ways of writing a floating point number.

- `writtenIn`: the fewest digits, always with a point or an exponent, so that the text is never
  read as an integer.  A `Style` says when it has an exponent.
- `token`: that form with an exponent from `10 ^ 16` on and below `10 ^ -4`.
- `plain`: the fewest digits, never with an exponent, without a point for integers.
- `fixed`: a given number of places, from the exact value, a half going to the even neighbour;
  `units` is the number without its point.
-/

/-! ### Layout -/

/-- The digits of an integer part and of a fraction, with a point between them unless the
    fraction is empty. -/
def withPoint (whole fraction : List Char) : List Char :=
  if fraction.isEmpty then whole else whole ++ '.' :: fraction

/-- A decimal without an exponent: the digits before and after the point. -/
def Scaled.positional (d : Scaled) : List Char × List Char :=
  let ds := decimal d.digits
  if 0 ≤ d.exponent then (ds ++ List.replicate d.exponent.natAbs '0', [])
  else
    let places := d.exponent.natAbs
    let padded := List.replicate (places + 1 - ds.length) '0' ++ ds
    (padded.take (padded.length - places), padded.drop (padded.length - places))

/-- A decimal with one digit before the point and an exponent. -/
def Scaled.scientific (d : Scaled) : List Char :=
  let ds := decimal d.digits
  withPoint (ds.take 1) (ds.drop 1) ++ 'e' :: signedDecimal (d.exponent + (ds.length - 1 : Nat))

/-- The texts of the numbers that are not finite. -/
def special (x : Float) : List Char :=
  if x.isNaN then "NaN".toList else if isNegative x then "-inf".toList else "inf".toList

/-- A minus sign in front of the text of a negative number. -/
def signed (x : Float) (magnitude : List Char) : List Char :=
  if isNegative x then '-' :: magnitude else magnitude

/-! ### The three forms -/

/-- How the fewest digits are chosen and laid out. -/
structure Style where
  /-- Magnitudes from `10 ^ least` up to `10 ^ 16` have no exponent. -/
  least : Int
  tie : Tie
deriving Repr, DecidableEq

/-- The fewest digits, with a point or an exponent. -/
def writtenIn (style : Style) (x : Float) : List Char :=
  if !x.isFinite then special x
  else
    let d := (Binary.ofFloat x).shortest style.tie
    let top := d.exponent + (decimal d.digits).length
    let magnitude :=
      -- Zero has no exponent, and neither have numbers of moderate size.
      if d.digits == 0 || (style.least < top && top ≤ 16) then
        let (whole, fraction) := d.positional
        withPoint whole (if fraction.isEmpty then ['0'] else fraction)
      else d.scientific
    signed x magnitude

/-- The fewest digits, with a point or an exponent, as values are written. -/
def token (x : Float) : List Char := writtenIn ⟨-4, .up⟩ x

/-- The fewest digits, without an exponent. -/
def plain (x : Float) : List Char :=
  if !x.isFinite then special x
  else
    let (whole, fraction) := ((Binary.ofFloat x).shortest .up).positional
    signed x (withPoint whole fraction)

/-- The quotient `num / den`, rounded to the nearest integer, a half to the even neighbour. -/
def roundedQuotient (num den : Nat) : Nat :=
  let q := num / den
  match compare (2 * (num % den)) den with
  | .lt => q
  | .gt => q + 1
  | .eq => if q % 2 == 0 then q else q + 1

/-- The magnitude of a number in units of `10 ^ -places`, rounded to the nearest. -/
def units (places : Nat) (b : Binary) : Nat :=
  roundedQuotient (b.mantissa * twoTo b.exponent.toNat * tenTo places) (twoTo (-b.exponent).toNat)

/-- The number with exactly `places` digits after the point. -/
def fixed (places : Nat) (x : Float) : List Char :=
  if !x.isFinite then special x
  else
    let (whole, fraction) := Scaled.positional ⟨units places (Binary.ofFloat x), -places⟩
    signed x (withPoint whole fraction)

end Questionnaire.Number
