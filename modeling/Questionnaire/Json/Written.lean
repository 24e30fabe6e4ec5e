import Questionnaire.Json.Basic
import Questionnaire.Number.Written
import Questionnaire.Keyed
import Questionnaire.Text.Digits

namespace Questionnaire.Json

/-!
# Written JSON

- `quoted`: a string between double quotes, with the escapes of JSON.
- `number`: a floating point number; it has an exponent from `10 ^ 16` on and below `10 ^ -5`.
- `pretty`: one item or field a line, indented by two spaces a level.
- `compact`: no blanks at all, fields sorted by name, numbers as values are written.
-/

/-! ### Leaves -/

/-- One character inside a string. -/
def escapeChar (c : Char) : List Char :=
  if c == '"' then ['\\', '"']
  else if c == '\\' then ['\\', '\\']
  else if c == '\n' then ['\\', 'n']
  else if c == '\r' then ['\\', 'r']
  else if c == '\t' then ['\\', 't']
  else if c.toNat == 0x08 then ['\\', 'b']
  else if c.toNat == 0x0C then ['\\', 'f']
  else if c.toNat < 0x20 then
    ['\\', 'u', '0', '0', Text.digitChar (c.toNat / 16), Text.digitChar (c.toNat % 16)]
  else [c]

/-- A string between double quotes. -/
def quoted (s : String) : String := String.ofList ('"' :: s.toList.flatMap escapeChar ++ ['"'])

/-- A floating point number with the fewest digits.  Of two decimals that are equally near, the even
    one is taken. -/
def number (x : Float) : String := String.ofList (Number.writtenIn ⟨-5, .even⟩ x)

/-- An integer. -/
def integer (i : Int) : String := String.ofList (Text.signedDecimal i)

/-! ### Compact form -/

mutual

/-- The compact form of a value. -/
def compact : Json → String
  | .null => "null"
  | .bool b => if b then "true" else "false"
  | .int i => integer i.toInt
  -- A number beyond 64 bits is written as the float that it is rounded to.
  | .large n => String.ofList (Number.token n.toFloat)
  | .float x => String.ofList (Number.token x)
  | .str s => quoted s
  | .array items => "[" ++ compactItems items ++ "]"
  | .object fields =>
    "\x7b" ++ String.intercalate "," ((Keyed.sorted (compactFields fields)).map (·.2)) ++ "\x7d"

/-- The items of an array, with commas between them. -/
def compactItems : List Json → String
  | [] => ""
  | [item] => compact item
  | item :: rest => compact item ++ "," ++ compactItems rest

/-- The name of each field with the text of the whole field. -/
def compactFields : List (String × Json) → List (String × String)
  | [] => []
  | (name, value) :: rest => (name, quoted name ++ ":" ++ compact value) :: compactFields rest

end

/-! ### Pretty form -/

/-- A line break followed by the indentation of a level. -/
def lineBreak (level : Nat) : String := "\n" ++ String.ofList (List.replicate (2 * level) ' ')

/-- Texts between two delimiters, each on a line of its own. -/
def block (opening closing : String) (level : Nat) (texts : List String) : String :=
  if texts.isEmpty then opening ++ closing
  else
    opening ++ String.intercalate "," (texts.map (lineBreak (level + 1) ++ ·)) ++ lineBreak level
      ++ closing

mutual

/-- The pretty form of a value that stands at a level of indentation. -/
def prettyAt (level : Nat) : Json → String
  | .null => "null"
  | .bool b => if b then "true" else "false"
  | .int i => integer i.toInt
  | .large n => integer n.value
  | .float x => if x.isFinite then number x else "null"
  | .str s => quoted s
  | .array items => block "[" "]" level (prettyItems (level + 1) items)
  | .object fields =>
    block "\x7b" "\x7d" level ((Keyed.sorted (prettyFields (level + 1) fields)).map (·.2))

/-- The pretty forms of the items of an array. -/
def prettyItems (level : Nat) : List Json → List String
  | [] => []
  | item :: rest => prettyAt level item :: prettyItems level rest

/-- The name of each field with the pretty form of the whole field. -/
def prettyFields (level : Nat) : List (String × Json) → List (String × String)
  | [] => []
  | (name, value) :: rest =>
    (name, quoted name ++ ": " ++ prettyAt level value) :: prettyFields level rest

end

/-- The pretty form of a value. -/
def pretty (json : Json) : String := prettyAt 0 json

end Questionnaire.Json
