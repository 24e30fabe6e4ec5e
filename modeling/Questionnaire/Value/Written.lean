import Questionnaire.Number.Written
import Questionnaire.Value.Basic

namespace Questionnaire.Value

/-!
# Values as tokens

Every value is written as a token that could be typed as an answer.

- `escape`: a string between double quotes; quotes and backslashes get a backslash.
- `written`: the characters of a value.  A list uses brackets, so that one item stays a list.
- `text`: the same as a string.
-/

/-- The characters of a string inside double quotes. -/
def escape : List Char → List Char
  | [] => []
  | c :: rest => if c == '"' || c == '\\' then '\\' :: c :: escape rest else c :: escape rest

/-- A string between double quotes. -/
def writtenStr (s : String) : List Char := '"' :: escape s.toList ++ ['"']

/-- An integer. -/
def writtenInt (i : Int64) : List Char := Text.signedDecimal i.toInt

mutual

/-- The characters of a value. -/
def written : Value → List Char
  | .none => "None".toList
  | .bool true => "True".toList
  | .bool false => "False".toList
  | .int i => writtenInt i
  | .float x => Number.token x
  | .str s => writtenStr s
  | .seq items => '[' :: writtenItems items ++ [']']
  | .function name => name.toList

/-- The characters of the items of a list, with a comma and a space between them. -/
def writtenItems : List Value → List Char
  | [] => []
  | [item] => written item
  | item :: rest => written item ++ ',' :: ' ' :: writtenItems rest

end

/-- A value as a token. -/
def text (value : Value) : String := String.ofList value.written

/-- A value is put into texts as it is written. -/
instance : ToString Value := ⟨text⟩

end Questionnaire.Value
