import Questionnaire.Json.Basic
import Questionnaire.Number.Read
import Questionnaire.Text.Split

namespace Questionnaire.Json

/-!
# Reading JSON

A reader of the JSON grammar.  A number without a fraction and without an exponent is an integer
if 64 bits hold it, with or without a sign; every other number, and minus zero, is a floating point
number.

- `readString`: the characters after an opening quote.
- `readNumber`: a number at the front of a text.
- `read?`: the value that a whole text writes.
-/

/-- What a reader found and the characters after it. -/
abbrev Found (α : Type) := Option (α × List Char)

/-- Drops the blanks that JSON allows between tokens. -/
def skip (cs : List Char) : List Char :=
  cs.dropWhile fun c => c == ' ' || c == '\n' || c == '\r' || c == '\t'

/-! ### Strings -/

/-- The number written by four hexadecimal digits at the front of a text. -/
def readUnit : List Char → Found Nat
  | a :: b :: c :: d :: rest => (Text.readDigits? 16 [a, b, c, d]).map fun n => (n, rest)
  | _ => none

/-- The character of a code unit, or of a pair of surrogates of which it is the first. -/
def readEscaped (cs : List Char) : Found Char :=
  match readUnit cs with
  | none => none
  | some (high, rest) =>
    -- A unit of the upper half stands only in front of one of the lower half.
    if 0xD800 ≤ high && high < 0xDC00 then
      match rest with
      | '\\' :: 'u' :: rest => match readUnit rest with
        | some (low, rest) =>
          if 0xDC00 ≤ low && low < 0xE000 then
            some (Char.ofNat (0x10000 + (high - 0xD800) * 0x400 + (low - 0xDC00)), rest)
          else none
        | none => none
      | _ => none
    else if 0xDC00 ≤ high && high < 0xE000 then none
    else some (Char.ofNat high, rest)

/-- The character that a letter after a backslash stands for. -/
def simpleEscape? (c : Char) : Option Char :=
  if c == '"' || c == '\\' || c == '/' then some c
  else if c == 'n' then some '\n'
  else if c == 'r' then some '\r'
  else if c == 't' then some '\t'
  else if c == 'b' then some '\x08'
  else if c == 'f' then some '\x0c'
  else none

/-- The characters up to the closing quote, after `acc` in reverse; `fuel` bounds their number. -/
def readString : (fuel : Nat) → (acc : List Char) → List Char → Found String
  | 0, _, _ => none
  | _ + 1, _, [] => none
  | fuel + 1, acc, c :: rest =>
    if c == '"' then some (String.ofList acc.reverse, rest)
    else if c == '\\' then
      match rest with
      | 'u' :: rest => match readEscaped rest with
        | some (d, rest) => readString fuel (d :: acc) rest
        | none => none
      | d :: rest => match simpleEscape? d with
        | some d => readString fuel (d :: acc) rest
        | none => none
      | [] => none
    else if c.toNat < 0x20 then none
    else readString fuel (c :: acc) rest

/-! ### Numbers -/

/-- The integer part of a number starts with a zero only if it is zero. -/
def isWholePart (ds : List Char) : Bool :=
  match ds with
  | [] => false
  | d :: more => d != '0' || more.isEmpty

/-- The characters that may stand in a number. -/
def isNumberChar (c : Char) : Bool :=
  c.isDigit || c == '+' || c == '-' || c == '.' || c == 'e' || c == 'E'

/-- The number that a text writes, as a whole. -/
def numberOf? (cs : List Char) : Option Json :=
  let (negative, magnitude) := match cs with
    | '-' :: rest => (true, rest)
    | _ => (false, cs)
  let whole := magnitude.takeWhile Char.isDigit
  let rest := magnitude.dropWhile Char.isDigit
  let fractionFits := match rest with
    | '.' :: d :: _ => d.isDigit
    | '.' :: [] => false
    | _ => true
  if !isWholePart whole || !fractionFits then none
  else
    let asFloat := (Number.readFloat? cs).map Json.float
    -- A negative zero is kept as a float, which has a sign for it.
    if rest.isEmpty && !(negative && whole == ['0']) then
      let large := if negative then none else (Text.readDigits? 10 whole).bind Large.ofNat?
      match Number.readInt? cs, large with
      | some i, _ => some (.int i)
      | none, some n => some (.large n)
      | none, none => asFloat
    else asFloat

/-- The number at the front of a text. -/
def readNumber (cs : List Char) : Found Json :=
  (numberOf? (cs.takeWhile isNumberChar)).map fun n => (n, cs.dropWhile isNumberChar)

/-! ### Values -/

mutual

/-- The value at the front of a text; `fuel` bounds the number of steps. -/
def readValue : (fuel : Nat) → List Char → Found Json
  | 0, _ => none
  | fuel + 1, cs =>
    match skip cs with
    | '"' :: rest => (readString (rest.length + 1) [] rest).map fun (s, rest) => (.str s, rest)
    | '[' :: rest => match skip rest with
      | ']' :: rest => some (.array [], rest)
      | _ => readItems fuel [] rest
    | '\x7b' :: rest => match skip rest with
      | '\x7d' :: rest => some (.object [], rest)
      | _ => readFields fuel [] rest
    | 't' :: rest => (Text.after? "rue".toList rest).map fun rest => (.bool true, rest)
    | 'f' :: rest => (Text.after? "alse".toList rest).map fun rest => (.bool false, rest)
    | 'n' :: rest => (Text.after? "ull".toList rest).map fun rest => (.null, rest)
    | rest => readNumber rest

/-- The items of an array from the next one on, after `acc` in reverse. -/
def readItems : (fuel : Nat) → (acc : List Json) → List Char → Found Json
  | 0, _, _ => none
  | fuel + 1, acc, cs =>
    match readValue fuel cs with
    | none => none
    | some (item, rest) => match skip rest with
      | ',' :: rest => readItems fuel (item :: acc) rest
      | ']' :: rest => some (.array (item :: acc).reverse, rest)
      | _ => none

/-- The fields of an object from the next one on, after `acc` in reverse. -/
def readFields : (fuel : Nat) → (acc : List (String × Json)) → List Char → Found Json
  | 0, _, _ => none
  | fuel + 1, acc, cs =>
    match skip cs with
    | '"' :: rest => match readString (rest.length + 1) [] rest with
      | none => none
      | some (name, rest) => match skip rest with
        | ':' :: rest => match readValue fuel rest with
          | none => none
          | some (value, rest) => match skip rest with
            | ',' :: rest => readFields fuel ((name, value) :: acc) rest
            | '\x7d' :: rest => some (.object ((name, value) :: acc).reverse, rest)
            | _ => none
        | _ => none
    | _ => none

end

/-- The value that a text writes, with nothing but blanks after it. -/
def read? (s : String) : Option Json :=
  let cs := s.toList
  match readValue (cs.length + 2) cs with
  | some (json, rest) => if (skip rest).isEmpty then some json else none
  | none => none

end Questionnaire.Json
