import Questionnaire.Text.Digits

namespace Questionnaire.Toml

/-!
# Dates and times

A date, a time of day, or both, then perhaps with an offset.  Reading gives the uniform text: a
capital `T` between date and time, a capital `Z`, no zeros at the end of a fraction.

- `readDate`, `readTime`, `readOffset`: the parts at the front of a text.
- `readDatetime?`: the uniform text of a whole text.
-/

/-- The uniform text of a part and the characters after it. -/
abbrev Part := Option (List Char × List Char)

/-- The number that two characters write, if it lies in a range. -/
def pair? (low high : Nat) (a b : Char) : Option Nat :=
  (Text.readDigits? 10 [a, b]).filter fun n => low ≤ n && n ≤ high

/-! ### Dates -/

/-- The number of days in a month. -/
def daysIn (year month : Nat) : Nat :=
  if month == 2 then
    if year % 4 == 0 && (year % 100 != 0 || year % 400 == 0) then 29 else 28
  else if month == 4 || month == 6 || month == 9 || month == 11 then 30
  else 31

/-- The date at the front of a text. -/
def readDate : List Char → Part
  | a :: b :: c :: d :: '-' :: m :: n :: '-' :: x :: y :: rest => do
    let year ← Text.readDigits? 10 [a, b, c, d]
    let month ← pair? 1 12 m n
    let _ ← pair? 1 (daysIn year month) x y
    return ([a, b, c, d, '-', m, n, '-', x, y], rest)
  | _ => none

/-! ### Times -/

/-- A list without the zeros at its end; one zero stays if there is nothing else. -/
def trimFraction (cs : List Char) : List Char :=
  let trimmed := (cs.reverse.dropWhile (· == '0')).reverse
  if trimmed.isEmpty then ['0'] else trimmed

/-- A point and the digits of a fraction of a second, of which nine count. -/
def readFraction : List Char → Part
  | '.' :: rest =>
    let ds := rest.takeWhile Char.isDigit
    if ds.isEmpty then none else some ('.' :: trimFraction (ds.take 9), rest.dropWhile Char.isDigit)
  | cs => some ([], cs)

/-- A colon and the seconds, which may be left out. -/
def readSeconds : List Char → Part
  | ':' :: a :: b :: rest => do
    let _ ← pair? 0 60 a b
    let (fraction, rest) ← readFraction rest
    return (':' :: a :: b :: fraction, rest)
  | ':' :: _ => none
  | cs => some ([], cs)

/-- The time of day at the front of a text. -/
def readTime : List Char → Part
  | a :: b :: ':' :: c :: d :: rest => do
    let _ ← pair? 0 23 a b
    let _ ← pair? 0 59 c d
    let (seconds, rest) ← readSeconds rest
    return (a :: b :: ':' :: c :: d :: seconds, rest)
  | _ => none

/-- The offset at the front of a text.  An offset of nothing has a plus sign. -/
def readOffset : List Char → Part
  | sign :: a :: b :: ':' :: c :: d :: rest => do
    if sign != '+' && sign != '-' then none
    let hours ← pair? 0 23 a b
    let minutes ← pair? 0 59 c d
    -- A minus in front of nothing is read as a plus.
    let sign := if hours == 0 && minutes == 0 then '+' else sign
    return ([sign, a, b, ':', c, d], rest)
  | _ => none

/-! ### Whole texts -/

/-- A character between date and time. -/
def isDateEnd (c : Char) : Bool := c == 'T' || c == 't' || c == ' '

/-- The uniform text of a time, perhaps with an offset, up to the end of a text. -/
def readTimeOfDate? (cs : List Char) : Option (List Char) := do
  let (time, rest) ← readTime cs
  if rest.isEmpty then return time
  else if rest == ['Z'] || rest == ['z'] then return time ++ ['Z']
  else match ← readOffset rest with
    | (offset, []) => return time ++ offset
    | _ => none

/-- The uniform text of a date, a time, or both. -/
def readDatetime? (cs : List Char) : Option String :=
  match readDate cs with
  | some (date, []) => some (String.ofList date)
  | some (date, c :: rest) =>
    if isDateEnd c then (readTimeOfDate? rest).map fun time => String.ofList (date ++ 'T' :: time)
    else none
  | none => match readTime cs with
    | some (time, []) => some (String.ofList time)
    | _ => none

end Questionnaire.Toml
