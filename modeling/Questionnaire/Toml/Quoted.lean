import Questionnaire.Text.Digits

namespace Questionnaire.Toml

/-!
# Quoted strings

A string stands between quotes in one of four forms: basic or literal, on one line or on several.
A basic string has escapes, a literal one has none.

- `Form`: the forms.
- `Form.best`: the form in which a string is written, and `quoted` its text in that form.
- `quotedKey`: a key, with quotes only where it needs them.
- `readQuoted`: the string at the front of a text.
-/

/-- A form of a string. -/
structure Form where
  /-- The string has escapes. -/
  basic : Bool
  /-- The string may go over several lines; its quotes are threefold. -/
  multi : Bool
deriving Repr, DecidableEq

/-- What a reader found and the characters after it. -/
abbrev Found (α : Type) := Option (α × List Char)

/-! ### Characters -/

/-- A control character other than a tab and a line feed. -/
def isControl (c : Char) : Bool :=
  (c.toNat < 0x20 && c != '\t' && c != '\n') || c.toNat == 0x7F

/-- A character that may stand in a line of text. -/
def isTextChar (c : Char) : Bool := c == '\t' || (0x20 ≤ c.toNat && c.toNat != 0x7F)

/-- A blank within a line. -/
def isBlankChar (c : Char) : Bool := c == ' ' || c == '\t'

/-- A character of a line end. -/
def isBreakChar (c : Char) : Bool := c == '\n' || c == '\r'

namespace Form

/-- The quote of a form. -/
def quote (f : Form) : Char := if f.basic then '"' else '\x27'

/-- The quotes on each side of a string. -/
def delimiter (f : Form) : List Char := List.replicate (if f.multi then 3 else 1) f.quote

/-! ### Choice -/

/-- Whether a character occurs three times in a row, after `run` of it. -/
def hasTriple (quote : Char) : (run : Nat) → List Char → Bool
  | _, [] => false
  | run, c :: rest =>
    if c == quote then 2 ≤ run || hasTriple quote (run + 1) rest else hasTriple quote 0 rest

/-- Whether a string can be written in a form as it is, without an escape. -/
def fits (f : Form) (cs : List Char) : Bool :=
  !cs.any isControl && !(f.basic && cs.contains '\\')
    && (if f.multi then !hasTriple f.quote 0 cs else !cs.contains f.quote && !cs.contains '\n')

/-- The forms by preference. -/
def preferred : List Form := [⟨true, false⟩, ⟨false, false⟩, ⟨true, true⟩, ⟨false, true⟩]

/-- The first form that needs no escape, else a basic one. -/
def best (cs : List Char) : Form :=
  (preferred.find? (·.fits cs)).getD ⟨true, cs.contains '\n'⟩

end Form

/-! ### Writing -/

/-- The four digits of the code of a control character. -/
def controlDigits (c : Char) : List Char :=
  let digit := fun n => if n < 10 then Char.ofNat (0x30 + n) else Char.ofNat (0x37 + n)
  ['0', '0', digit (c.toNat / 16), digit (c.toNat % 16)]

/-- A character of a basic string other than a quote. -/
def escapeChar (multi : Bool) (c : Char) : List Char :=
  if c == '\\' then ['\\', '\\']
  else if c == '\t' then ['\\', 't']
  else if c == '\r' then ['\\', 'r']
  else if c == '\x08' then ['\\', 'b']
  else if c == '\x0c' then ['\\', 'f']
  else if c == '\n' then if multi then ['\n'] else ['\\', 'n']
  else if isControl c then '\\' :: 'u' :: controlDigits c
  else [c]

/-- The characters of a basic string.  A quote has an escape; on several lines only every third
    quote in a row has one, and `run` counts the quotes since the last escape. -/
def escape (multi : Bool) : (run : Nat) → List Char → List Char
  | _, [] => []
  | run, c :: rest =>
    if c == '"' then
      if multi && run < 2 then c :: escape multi (run + 1) rest
      else '\\' :: '"' :: escape multi 0 rest
    else escapeChar multi c ++ escape multi 0 rest

/-- A string in a form.  On several lines a line end follows the opening quotes. -/
def Form.write (f : Form) (cs : List Char) : List Char :=
  f.delimiter ++ (if f.multi && cs.contains '\n' then ['\n'] else [])
    ++ (if f.basic then escape f.multi 0 cs else cs) ++ f.delimiter

/-- A string between quotes. -/
def quoted (s : String) : List Char := (Form.best s.toList).write s.toList

/-- A character of a key without quotes. -/
def isBareChar (c : Char) : Bool := c.isAlphanum || c == '-' || c == '_'

/-- A key, with quotes unless all its characters can do without. -/
def quotedKey (key : String) : List Char :=
  let cs := key.toList
  if !cs.isEmpty && cs.all isBareChar then cs
  else ((Form.preferred.take 2).find? (·.fits cs) |>.getD ⟨true, false⟩).write cs

/-! ### Reading -/

/-- Where the reader of a string stands. -/
inductive Inside where
  /-- Between characters.  Blanks and line ends after an escaped line end do not count. -/
  | plain (folding : Bool)
  /-- After a backslash. -/
  | escaped
  /-- After a backslash and blanks, before a line end. -/
  | folded
  /-- In the code of a character, with some digits to come. -/
  | code (left value : Nat)

/-- The character that a letter after a backslash stands for. -/
def simpleEscape? (c : Char) : Option Char :=
  if c == '"' || c == '\\' then some c
  else if c == 'b' then some '\x08'
  else if c == 't' then some '\t'
  else if c == 'n' then some '\n'
  else if c == 'f' then some '\x0c'
  else if c == 'r' then some '\r'
  else if c == 'e' then some '\x1b'
  else none

/-- The number of digits in the code that a letter after a backslash announces. -/
def codeLength? (c : Char) : Option Nat :=
  if c == 'u' then some 4 else if c == 'U' then some 8 else if c == 'x' then some 2 else none

/-- The character of a code. -/
def charOf? (n : Nat) : Option Char :=
  if Nat.isValidChar n then some (Char.ofNat n) else none

/-- What is found after a first character. -/
def after (c : Char) (found : Found (List Char)) : Found (List Char) :=
  found.map fun (cs, rest) => (c :: cs, rest)

/-- The closing quotes at the front of a text, with the characters before them that are quotes
    themselves, and the rest. -/
def closing? (f : Form) (cs : List Char) : Found (List Char) :=
  let q := f.quote
  if !f.multi then match cs with
    | c :: rest => if c == q then some ([], rest) else none
    | [] => none
  else
    let run := (cs.takeWhile (· == q)).length
    if run < 3 then none
    else
      -- Up to two of the quotes belong to the string.
      let length := min run 5
      some (List.replicate (length - 3) q, cs.drop length)

/-- The characters of a string up to its closing quotes, and what comes after them. -/
def readInside (f : Form) : Inside → List Char → Found (List Char)
  | _, [] => none
  | .plain folding, c :: rest =>
    -- Behind an escaped line end, blanks are passed over up to the next character.
    if folding && (isBlankChar c || isBreakChar c) then readInside f (.plain true) rest
    else match closing? f (c :: rest) with
      | some found => some found
      | none =>
        if c == '\\' && f.basic then readInside f .escaped rest
        else if isTextChar c || (f.multi && isBreakChar c) then
          after c (readInside f (.plain false) rest)
        else none
  | .escaped, c :: rest =>
    match simpleEscape? c, codeLength? c with
    | some d, _ => after d (readInside f (.plain false) rest)
    | none, some n => readInside f (.code n 0) rest
    | none, none =>
      -- Only a string on several lines has line ends to be escaped.
      if !f.multi then none
      else if isBlankChar c then readInside f .folded rest
      else if isBreakChar c then readInside f (.plain true) rest
      else none
  | .folded, c :: rest =>
    if isBlankChar c then readInside f .folded rest
    else if isBreakChar c then readInside f (.plain true) rest
    else none
  | .code left value, c :: rest =>
    match Text.digitValue? 16 c with
    | none => none
    | some digit =>
      let value := value * 16 + digit
      if 1 < left then readInside f (.code (left - 1) value) rest
      else match charOf? value with
        | some d => after d (readInside f (.plain false) rest)
        | none => none

/-- The string after its opening quotes.  On several lines a line end right after them does not
    count. -/
def readOpened (f : Form) (cs : List Char) : Found String :=
  let inside := match f.multi, cs with
    | true, '\n' :: rest => rest
    | true, '\r' :: '\n' :: rest => rest
    | _, _ => cs
  (readInside f (.plain false) inside).map fun (s, rest) => (String.ofList s, rest)

/-- The string at the front of a text that starts with a quote. -/
def readQuoted : List Char → Found String
  | '"' :: '"' :: '"' :: rest => readOpened ⟨true, true⟩ rest
  | '\x27' :: '\x27' :: '\x27' :: rest => readOpened ⟨false, true⟩ rest
  | '"' :: rest => readOpened ⟨true, false⟩ rest
  | '\x27' :: rest => readOpened ⟨false, false⟩ rest
  | _ => none

end Questionnaire.Toml
