namespace Questionnaire.Text

/-!
# Digits

Numbers written in a base, most significant digit first.

- `digitChar`: the character of one digit.
- `digits`: a number in a base from 2 to 16.
- `decimal`: a number in base ten; `signedDecimal` puts a minus sign in front of a negative one.
- `digitValue?`, `readDigits?`: the way back.
-/

/-! ### Writing -/

/-- The character of a digit below sixteen, with small letters. -/
def digitChar (d : Nat) : Char :=
  if d < 10 then Char.ofNat (0x30 + d) else Char.ofNat (0x61 + (d - 10))

/-- The digits of `n` in base `base` in front of `acc`; `fuel` bounds their number. -/
def digitsOnto (base : Nat) : (fuel : Nat) → (n : Nat) → List Char → List Char
  | 0, _, acc => acc
  | fuel + 1, n, acc =>
    if n < base then digitChar n :: acc
    else digitsOnto base fuel (n / base) (digitChar (n % base) :: acc)

/-- The digits of `n` in base `base`; zero has the one digit `0`. -/
def digits (base n : Nat) : List Char := digitsOnto base (n.log2 + 1) n []

/-- The digits of `n` in base ten. -/
def decimal (n : Nat) : List Char := digits 10 n

/-- The digits of `i` in base ten, after a minus sign if it is negative. -/
def signedDecimal (i : Int) : List Char :=
  if i < 0 then '-' :: decimal i.natAbs else decimal i.natAbs

/-! ### Reading -/

/-- The value of a digit in base `base`; letters of either case stand for ten and above. -/
def digitValue? (base : Nat) (c : Char) : Option Nat :=
  let n := c.toNat
  let d := if 0x30 ≤ n && n ≤ 0x39 then n - 0x30
    else if 0x61 ≤ n && n ≤ 0x7A then n - 0x61 + 10
    else if 0x41 ≤ n && n ≤ 0x5A then n - 0x41 + 10
    else base
  if d < base then some d else none

/-- The number that the digits `cs` continue, when `acc` has been read before them. -/
def readDigitsFrom (base : Nat) (acc : Nat) : List Char → Option Nat
  | [] => some acc
  | c :: rest => match digitValue? base c with
    | some d => readDigitsFrom base (acc * base + d) rest
    | none => none

/-- The number written by a nonempty row of digits. -/
def readDigits? (base : Nat) (cs : List Char) : Option Nat :=
  if cs.isEmpty then none else readDigitsFrom base 0 cs

end Questionnaire.Text
