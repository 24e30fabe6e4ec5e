import Questionnaire.Number.Read
import Questionnaire.Toml.Basic
import Questionnaire.Toml.Datetime
import Questionnaire.Toml.Quoted

namespace Questionnaire.Toml

/-!
# Values without quotes and brackets

- `readWord?`: the value that a word writes: a truth value, a number, a date or a time.
- `readScalar`: the value at the front of a text that does not start with a quote or a bracket.
-/

/-! ### Numbers -/

/-- The digits of a number without the underscores, each of which stands between two digits. -/
def plainDigits? (isDigit : Char → Bool) : (between : Bool) → List Char → Option (List Char)
  | between, [] => if between then some [] else none
  | between, c :: rest =>
    if isDigit c then (plainDigits? isDigit true rest).map (c :: ·)
    else if c == '_' && between then plainDigits? isDigit false rest
    else none

/-- The digits of a decimal number, without underscores. -/
def decimalDigits? (cs : List Char) : Option (List Char) := plainDigits? Char.isDigit false cs

/-- Digits that start with a zero only if there are no others. -/
def withoutLeadingZero? (ds : List Char) : Option (List Char) :=
  if ds.head? == some '0' && 1 < ds.length then none else some ds

/-- The integers that a document may hold. -/
def isInRange (i : Int) : Bool := -Number.twoTo 127 ≤ i && i < Number.twoTo 128

/-- The integer of a sign and digits in a base. -/
def integerOf? (base : Nat) (negative : Bool) (ds : List Char) : Option Toml := do
  let n ← Text.readDigits? base ds
  let i : Int := if negative then -n else n
  if isInRange i then some (.integer i) else none

/-- The number in another base that a word after a zero writes. -/
def readBased? : List Char → Option Toml
  | 'x' :: rest => based 16 rest
  | 'o' :: rest => based 8 rest
  | 'b' :: rest => based 2 rest
  | _ => none
where
  based (base : Nat) (cs : List Char) : Option Toml := do
    integerOf? base false (← plainDigits? (fun c => (Text.digitValue? base c).isSome) false cs)

/-- The digits of a fraction after their point, in front of an exponent. -/
def readFractionDigits? (cs : List Char) : Option (List Char) :=
  match cs with
  | [] => some []
  | '.' :: ds => (decimalDigits? ds).map ('.' :: ·)
  | _ => none

/-- The digits and the sign of an exponent. -/
def readExponentDigits? (cs : List Char) : Option (List Char) :=
  match cs with
  | [] => some []
  | '-' :: ds => (decimalDigits? ds).map ('-' :: ·)
  | '+' :: ds => decimalDigits? ds
  | ds => decimalDigits? ds

/-- The floating point number that a word without a sign writes.  It has a fraction or an exponent,
    and is not too large. -/
def readMagnitude? (cs : List Char) : Option Float := do
  let isMark := fun c => c == 'e' || c == 'E'
  let mantissa := cs.takeWhile fun c => !isMark c
  let tail := cs.dropWhile fun c => !isMark c
  let whole ← decimalDigits? (mantissa.takeWhile (· != '.')) >>= withoutLeadingZero?
  let fraction ← readFractionDigits? (mantissa.dropWhile (· != '.'))
  let exponent ← match tail with
    | [] => some []
    | _ :: ds => if ds.isEmpty then none else (readExponentDigits? ds).map ('e' :: ·)
  let x ← Number.readFloat? (whole ++ fraction ++ exponent)
  if x.isInf then none else some x

/-- The number that a word writes. -/
def readNumber? (cs : List Char) : Option Toml :=
  let (negative, magnitude) := Number.splitSign cs
  let signed := fun (x : Float) => Toml.float (if negative then -x else x)
  if magnitude == "inf".toList then some (signed (1.0 / 0.0))
  else if magnitude == "nan".toList then some (signed (0.0 / 0.0))
  else match decimalDigits? magnitude with
    | some ds => withoutLeadingZero? ds >>= integerOf? 10 negative
    | none => (readMagnitude? magnitude).map signed

/-! ### Words -/

/-- A character that may be part of a word. -/
def isWordChar (c : Char) : Bool :=
  isTextChar c && !isBlankChar c && !"\"',=#[]\x7b\x7d".toList.contains c

/-- The value that a word writes. -/
def readWord? (cs : List Char) : Option Toml :=
  if cs == "true".toList then some (.boolean true)
  else if cs == "false".toList then some (.boolean false)
  else match readDatetime? cs with
    | some text => some (.datetime text)
    | none => match cs with
      | '0' :: c :: rest =>
        if c.isAlpha && c != 'e' && c != 'E' then readBased? (c :: rest) else readNumber? cs
      | _ => readNumber? cs

/-- The value at the front of a text.  A blank may stand between a date and a time. -/
def readScalar (cs : List Char) : Found Toml :=
  let word := cs.takeWhile isWordChar
  let rest := cs.dropWhile isWordChar
  match readDate word, rest with
  -- A space may stand between a date and a time, but only a digit tells that a time follows.
  | some (_, []), ' ' :: c :: more =>
    if c.isDigit then
      let time := (c :: more).takeWhile isWordChar
      (readWord? (word ++ ' ' :: time)).map fun v => (v, (c :: more).dropWhile isWordChar)
    else (readWord? word).map fun v => (v, rest)
  | _, _ => (readWord? word).map fun v => (v, rest)

end Questionnaire.Toml
