import Questionnaire.Expression.Failure
import Questionnaire.Text.Blank

namespace Questionnaire.Expression

/-!
# Lexemes

A text is cut into marks of one character, blanks, words and quoted strings.  Comments vanish
without a trace: a word goes on behind a comment.

- `Lexeme`: a piece of the text.
- `lexemes`: the pieces of a text, in order.
-/

/-- A piece of an expression. -/
inductive Lexeme where
  /-- One of the characters that never belong to a word. -/
  | mark (c : Char)
  | blank
  | word (cs : List Char)
  | quoted (s : String)
deriving Repr, DecidableEq

/-- A piece as messages show it. -/
def Lexeme.text : Lexeme → String
  | .mark c => String.singleton c
  | .blank => " "
  | .word cs => String.ofList cs
  | .quoted s => Text.quoted s

/-- The characters that are pieces of their own. -/
def isMark (c : Char) : Bool := "+-*/%^(),;=!><&|".toList.contains c

/-! ### Cutting -/

/-- Where in a text the reader stands. -/
inductive Place where
  | code
  /-- Inside a string, with its characters so far in reverse. -/
  | string (acc : List Char)
  /-- Inside a comment that ends with the line. -/
  | lineComment
  /-- Inside a comment that ends with a star and a slash. -/
  | blockComment

/-- The pending word as a piece; `acc` holds its characters in reverse. -/
def flush (acc : List Char) (rest : List Lexeme) : List Lexeme :=
  if acc.isEmpty then rest else .word acc.reverse :: rest

/-- The pieces of a text from a place on; `acc` is the pending word in reverse. -/
def lexemesFrom : Place → (acc : List Char) → List Char → Except Failure (List Lexeme)
  | .code, acc, [] => .ok (flush acc [])
  | .string _, _, [] => .error .unmatchedQuote
  | .lineComment, acc, [] => .ok (flush acc [])
  | .blockComment, _, [] => .error .unmatchedComment
  -- A comment does not end a word: what stands on both sides of it is gathered together.
  | .code, acc, '/' :: '/' :: rest => lexemesFrom .lineComment acc rest
  | .code, acc, '/' :: '*' :: rest => lexemesFrom .blockComment acc rest
  | .code, acc, c :: rest =>
    if c == '"' then (flush acc ·) <$> lexemesFrom (.string []) [] rest
    else if isMark c then (flush acc <| .mark c :: ·) <$> lexemesFrom .code [] rest
    else if Text.isBlank c then (flush acc <| .blank :: ·) <$> lexemesFrom .code [] rest
    else lexemesFrom .code (c :: acc) rest
  | .string s, acc, '\\' :: c :: rest =>
    -- Only a quote and a backslash may be escaped.
    if c == '"' || c == '\\' then lexemesFrom (.string (c :: s)) acc rest
    else .error (.illegalEscape (String.singleton c))
  | .string s, acc, c :: rest =>
    if c == '"' then (.quoted (String.ofList s.reverse) :: ·) <$> lexemesFrom .code acc rest
    else if c == '\\' then .error (.illegalEscape "")
    else lexemesFrom (.string (c :: s)) acc rest
  | .lineComment, acc, c :: rest =>
    lexemesFrom (if c == '\n' then .code else .lineComment) acc rest
  | .blockComment, acc, '*' :: '/' :: rest => lexemesFrom .code acc rest
  | .blockComment, acc, _ :: rest => lexemesFrom .blockComment acc rest

/-- The pieces of a text. -/
def lexemes (cs : List Char) : Except Failure (List Lexeme) := lexemesFrom .code [] cs

end Questionnaire.Expression
