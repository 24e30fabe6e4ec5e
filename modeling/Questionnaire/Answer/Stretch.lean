import Questionnaire.Text.Blank
import Questionnaire.Text.Word

namespace Questionnaire.Answer

/-!
# Answers as expressions

An answer may use list brackets, strings in either kind of quotes and the words `True`, `False`
and `None`.  It is cut into stretches of code and string literals; code is adapted, and every
literal is written between double quotes with its content kept.

- `Stretch`: a piece of code, or the content of a literal.
- `stretches?`: the pieces of an answer, if every literal is closed.
- `expression?`: the expression that an answer means.
-/

/-- A piece of an answer. -/
inductive Stretch where
  | code (cs : List Char)
  /-- The content of a literal, as it stands between double quotes. -/
  | literal (cs : List Char)
deriving Repr, DecidableEq

/-! ### Cutting -/

/-- The pieces of an answer from a place on, which is in code, or in a literal that a given quote
    closes; `acc` holds the piece so far in reverse.  There are none if a literal is never closed.
    In a literal an escaped single quote loses its backslash, and a double quote that does not
    close it gains one; every other escape stays as it is. -/
def stretchesFrom : (quote : Option Char) → (acc : List Char) → List Char → Option (List Stretch)
  | none, acc, [] => some [.code acc.reverse]
  | some _, _, [] => none
  | none, acc, c :: rest =>
    if c == '"' || c == '\x27' then (.code acc.reverse :: ·) <$> stretchesFrom (some c) [] rest
    else stretchesFrom none (c :: acc) rest
  -- A backslash takes the next character with it, so a quote behind it closes nothing.
  | some q, acc, '\\' :: c :: rest =>
    stretchesFrom (some q) (if c == '\x27' then '\x27' :: acc else c :: '\\' :: acc) rest
  | some q, acc, c :: rest =>
    if c == q then (.literal acc.reverse :: ·) <$> stretchesFrom none [] rest
    -- A double quote needs a backslash once the literal stands between double quotes.
    else stretchesFrom (some q) (if c == '"' then '"' :: '\\' :: acc else c :: acc) rest

/-- The pieces of an answer. -/
def stretches? (cs : List Char) : Option (List Stretch) := stretchesFrom none [] cs

/-! ### Code -/

/-- The name of the function behind list brackets. -/
def listOpening : List Char := "seq(()".toList

/-- List brackets become calls that start with a marker.  While `opened`, a bracket has been opened
    and its first item is still to come; the item gets a comma in front.  With `followed`, a
    literal comes after the code. -/
def replaceBrackets (followed : Bool) (opened : Bool) : List Char → List Char
  | [] => if opened && followed then [',', ' '] else []
  | c :: rest =>
    -- The marker of a list gets its comma as soon as there is a first item.
    let comma := if opened && !Text.isBlank c && c != ']' then [',', ' '] else []
    let stillOpened := opened && Text.isBlank c
    comma ++
      if c == '[' then listOpening ++ replaceBrackets followed true rest
      else if c == ']' then ')' :: replaceBrackets followed stillOpened rest
      else c :: replaceBrackets followed stillOpened rest

/-- Whether a word ends in front of these characters. -/
def wordEnds : List Char → Bool
  | [] => true
  | c :: _ => !Text.isWordChar c

/-- The three words become the constants that they name, where they stand as whole words; with
    `inWord`, the character before belongs to a word. -/
def replaceWords (inWord : Bool) : List Char → List Char
  | [] => []
  | 'T' :: 'r' :: 'u' :: 'e' :: rest =>
    -- The constant ends a word itself, so no second keyword can start right behind it.
    if !inWord && wordEnds rest then "true".toList ++ replaceWords true rest
    else 'T' :: replaceWords true ('r' :: 'u' :: 'e' :: rest)
  | 'F' :: 'a' :: 'l' :: 's' :: 'e' :: rest =>
    if !inWord && wordEnds rest then "false".toList ++ replaceWords true rest
    else 'F' :: replaceWords true ('a' :: 'l' :: 's' :: 'e' :: rest)
  | 'N' :: 'o' :: 'n' :: 'e' :: rest =>
    if !inWord && wordEnds rest then "()".toList ++ replaceWords true rest
    else 'N' :: replaceWords true ('o' :: 'n' :: 'e' :: rest)
  | c :: rest => c :: replaceWords (Text.isWordChar c) rest

/-- The expression of a piece of code. -/
def codeExpression (followed : Bool) (cs : List Char) : List Char :=
  replaceWords false (replaceBrackets followed false cs)

/-! ### Expressions -/

/-- The expression of a row of pieces. -/
def joined : List Stretch → List Char
  | [] => []
  | .code cs :: rest => codeExpression (!rest.isEmpty) cs ++ joined rest
  | .literal cs :: rest => '"' :: cs ++ '"' :: joined rest

/-- The expression that an answer means. -/
def expression? (cs : List Char) : Option (List Char) := (stretches? cs).map joined

end Questionnaire.Answer
