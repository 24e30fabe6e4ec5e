import Questionnaire.Text.Digits
import Questionnaire.Text.Plain

namespace Questionnaire.Text

/-!
# Quoted text in messages

Messages show a text between double quotes, with escapes for whatever would not show as itself.

- `escapeChar`: how one character is shown.
- `quoted`: the text between its quotes.
-/

/-- One character of a quoted text. -/
def escapeChar (c : Char) : List Char :=
  if c == '"' then ['\\', '"']
  else if c == '\\' then ['\\', '\\']
  else if c == '\n' then ['\\', 'n']
  else if c == '\r' then ['\\', 'r']
  else if c == '\t' then ['\\', 't']
  else if c.toNat == 0 then ['\\', '0']
  else if isPlain c then [c]
  else ['\\', 'u', '\x7b'] ++ digits 16 c.toNat ++ ['\x7d']

/-- A text between double quotes, escaped. -/
def quoted (s : String) : String :=
  String.ofList ('"' :: s.toList.flatMap escapeChar ++ ['"'])

end Questionnaire.Text
