import Questionnaire.Number.Arithmetic

namespace Questionnaire.Number

/-!
# Inverse hyperbolic functions

They are computed from logarithms, in forms that lose no digits near zero.

- `logOnePlus`: the logarithm of `1 + x`.
- `inverseSinh`, `inverseCosh`, `inverseTanh`.
-/

/-- The natural logarithm of `1 + x`, where the rounding of the sum is made good again. -/
def logOnePlus (x : Float) : Float :=
  let sum := 1 + x
  if sum == 1 then x
  else if sum.isInf then sum
  else sum.log * (x / (sum - 1))

/-- The inverse of the hyperbolic sine. -/
def inverseSinh (x : Float) : Float :=
  let magnitude := x.abs
  let inverse := 1 / magnitude
  let y := logOnePlus (magnitude + magnitude / (hypotenuse 1 inverse + inverse))
  if isNegative x then -y else y

/-- The inverse of the hyperbolic cosine; there is none below one. -/
def inverseCosh (x : Float) : Float :=
  if x < 1 then 0.0 / 0.0 else (x + (x - 1).sqrt * (x + 1).sqrt).log

/-- The inverse of the hyperbolic tangent. -/
def inverseTanh (x : Float) : Float := 0.5 * logOnePlus ((2 * x) / (1 - x))

end Questionnaire.Number
