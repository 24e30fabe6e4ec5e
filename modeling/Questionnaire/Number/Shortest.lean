import Questionnaire.Number.Binary

namespace Questionnaire.Number

/-!
# The fewest digits that read back

Each binary number stands for the interval of reals that round to it.  Its shortest decimal is a
decimal in that interval with the fewest digits, and among those the nearest to the number.

- `Scaled`: a decimal `digits * 10 ^ exponent`.
- `Tie`: which of two equally near decimals is taken.
- `Binary.readsBack`: a decimal lies in the interval of a binary number.
- `Binary.scale`: the position of the leading digit.
- `Binary.shortest`: the search over growing numbers of digits.
-/

/-! ### Decimals -/

/-- The decimal `digits * 10 ^ exponent`. -/
structure Scaled where
  digits : Nat
  exponent : Int
deriving Repr, DecidableEq

/-- Which of two neighbouring decimals is taken when both are equally near. -/
inductive Tie where
  | up
  /-- The one whose last digit is even. -/
  | even
deriving Repr, DecidableEq

/-- The upper one of two neighbours is taken, where `down` are the digits of the lower one. -/
def Tie.takesUpper (tie : Tie) (down : Nat) : Bool :=
  match tie with
  | .up => true
  | .even => down % 2 == 1

/-- Compares `a * 10 ^ i` with `n * 2 ^ j`. -/
def compareScaled (a : Nat) (i : Int) (n : Nat) (j : Int) : Ordering :=
  compare (a * tenTo i.toNat * twoTo (-j).toNat) (n * twoTo j.toNat * tenTo (-i).toNat)

/-- The decimal rounds to the number: it lies between the midpoints to the two neighbours.  The
    midpoints themselves belong to a number with an even mantissa. -/
def Binary.readsBack (x : Binary) (d : Scaled) : Bool :=
  let low := if x.narrowBelow then 4 * x.mantissa - 1 else 4 * x.mantissa - 2
  let high := 4 * x.mantissa + 2
  let closed := x.mantissa % 2 == 0
  let fromLow := compareScaled d.digits d.exponent low (x.exponent - 2)
  let fromHigh := compareScaled d.digits d.exponent high (x.exponent - 2)
  (fromLow == .gt || (closed && fromLow == .eq)) && (fromHigh == .lt || (closed && fromHigh == .eq))

/-! ### The search -/

/-- The least `k` with `x < 10 ^ k`, for a number that is not zero. -/
def Binary.scale (x : Binary) : Int :=
  let guess := (x.mantissa.log2 + x.exponent) * 30103 / 100000
  let above := fun k => compareScaled 1 k x.mantissa x.exponent == .gt
  if above (guess - 1) then guess - 1
  else if above guess then guess
  else if above (guess + 1) then guess + 1
  else guess + 2

/-- The largest multiple of `10 ^ grid` that does not exceed the number, in units of the grid. -/
def Binary.floorOn (x : Binary) (grid : Int) : Nat :=
  (x.mantissa * twoTo x.exponent.toNat * tenTo (-grid).toNat)
    / (tenTo grid.toNat * twoTo (-x.exponent).toNat)

/-- The neighbour of the number on a grid that reads back; of two, the nearer one. -/
def Binary.onGrid (x : Binary) (tie : Tie) (grid : Int) : Option Scaled :=
  let down : Scaled := ⟨x.floorOn grid, grid⟩
  let up : Scaled := ⟨x.floorOn grid + 1, grid⟩
  -- Both neighbours may be read as the number; then the nearer one is taken.
  match x.readsBack down, x.readsBack up with
  | true, true =>
    match compareScaled (down.digits + up.digits) grid (2 * x.mantissa) x.exponent with
    | .gt => some down
    | .lt => some up
    | .eq => some (if tie.takesUpper down.digits then up else down)
  | true, false => some down
  | false, true => some up
  | false, false => none

/-- Moves trailing zeros of the digits into the exponent; `fuel` bounds their number. -/
def Scaled.strip : (fuel : Nat) → Scaled → Scaled
  | 0, d => d
  | fuel + 1, d =>
    if d.digits ≠ 0 && d.digits % 10 == 0 then strip fuel ⟨d.digits / 10, d.exponent + 1⟩ else d

/-- The exact decimal value of the number. -/
def Binary.exact (x : Binary) : Scaled :=
  if 0 ≤ x.exponent then ⟨x.mantissa * twoTo x.exponent.toNat, 0⟩
  else ⟨x.mantissa * fiveTo x.exponent.natAbs, x.exponent⟩

/-- The decimal with the fewest digits that reads back as the number. -/
def Binary.shortest (x : Binary) (tie : Tie) : Scaled :=
  if x.mantissa == 0 then ⟨0, 0⟩
  else
    let found := (List.range 17).findSome? fun (n : Nat) => x.onGrid tie (x.scale - (n + 1))
    Scaled.strip 17 (found.getD x.exact)

end Questionnaire.Number
