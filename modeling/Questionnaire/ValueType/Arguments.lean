import Questionnaire.Text.Blank

namespace Questionnaire.ValueType

/-!
# Splitting type arguments

The arguments of a type stand between commas.  A comma inside brackets, parentheses or quotes
belongs to an argument.

- `SplitError`: why a text has no arguments.
- `split`: the arguments of a text, without the blanks around them.
-/

/-- Why a text cannot be split into arguments. -/
inductive SplitError where
  /-- A bracket or parenthesis closes that none has opened. -/
  | unopened
  /-- A bracket, a parenthesis or a quote is still open at the end. -/
  | unclosed
  /-- There is nothing between two commas, or before the first. -/
  | emptyArgument
deriving Repr, DecidableEq

/-- The pieces between the commas, from a place on that lies inside `depth` brackets and inside the
    given quote; `acc` holds the piece so far in reverse. -/
def piecesFrom (depth : Nat) (quote : Option Char) (acc : List Char) :
    List Char → Except SplitError (List (List Char))
  | [] => if depth = 0 && quote.isNone then .ok [acc.reverse] else .error .unclosed
  | c :: rest => match quote with
    -- Between quotes only the quote that closes them counts.
    | some q => piecesFrom depth (if c == q then none else some q) (c :: acc) rest
    | none =>
      if c == '"' || c == '\x27' then piecesFrom depth (some c) (c :: acc) rest
      else if c == '[' || c == '(' then piecesFrom (depth + 1) none (c :: acc) rest
      else if c == ']' || c == ')' then
        -- Brackets of both kinds are counted together.
        match depth with
        | 0 => .error .unopened
        | depth + 1 => piecesFrom depth none (c :: acc) rest
      else if c == ',' && depth == 0 then
        (acc.reverse :: ·) <$> piecesFrom 0 none [] rest
      else piecesFrom depth none (c :: acc) rest

/-- The pieces without a last one that is empty. -/
def dropEmptyLast : List (List Char) → List (List Char)
  | [] => []
  | [piece] => if piece.isEmpty then [] else [piece]
  | piece :: rest => piece :: dropEmptyLast rest

/-- The arguments of a text. -/
def split (cs : List Char) : Except SplitError (List (List Char)) :=
  match piecesFrom 0 none [] cs with
  | .error e => .error e
  | .ok pieces =>
    let arguments := dropEmptyLast (pieces.map Text.trim)
    if arguments.any List.isEmpty then .error .emptyArgument else .ok arguments

end Questionnaire.ValueType
