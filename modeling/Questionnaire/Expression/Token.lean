import Questionnaire.Number.Read
import Questionnaire.Expression.Lexeme

namespace Questionnaire.Expression

/-!
# Tokens

Neighbouring pieces combine to operators of several characters and to numbers with a signed
exponent; every other piece is a token of its own, and blanks are dropped.

- `Token`: an operator sign, a name or a constant.
- `tokenAt`: the token at a piece, and how many of the following pieces belong to it.
- `tokens`: the tokens of a row of pieces.
-/

/-- A token of an expression. -/
inductive Token where
  | plus
  | minus
  | star
  | slash
  | percent
  | hat
  | equal
  | notEqual
  | greater
  | less
  | greaterEqual
  | lessEqual
  | and
  | or
  | not
  | opening
  | closing
  /-- An assignment, alone or combined with another operator. -/
  | assign (combined : Bool)
  | comma
  | semicolon
  | name (s : String)
  | constant (value : Value)

namespace Token

/-- A value ends with the token. -/
def endsValue : Token → Bool
  | .closing | .name _ | .constant _ => true
  | _ => false

/-- A value begins with the token. -/
def beginsValue : Token → Bool
  | .opening | .name _ | .constant _ => true
  | _ => false

/-- The token is an assignment. -/
def isAssignment : Token → Bool
  | .assign _ => true
  | _ => false

end Token

/-! ### Words -/

/-- The constant that a word writes: an integer, in base sixteen after `0x`, a floating point
    number or a truth value. -/
def constantOf? (cs : List Char) : Option Value :=
  let hexadecimal := match cs with
    | '0' :: 'x' :: ds => Number.readIntIn? 16 ds
    | _ => none
  match hexadecimal, Number.readInt? cs, Number.readFloat? cs with
  | some i, _, _ => some (.int i)
  | none, some i, _ => some (.int i)
  | none, none, some x => some (.float x)
  | none, none, none =>
    if cs == "true".toList then some (.bool true)
    else if cs == "false".toList then some (.bool false)
    else none

/-- The number that a word, a sign and another word write together. -/
def splitExponent? (cs : List Char) : List Lexeme → Option Float
  | .mark c :: .word ds :: _ =>
    if c == '+' || c == '-' then Number.readFloat? (cs ++ c :: ds) else none
  | _ => none

/-- The token at a word, and how many of the following pieces belong to it. -/
def wordToken (cs : List Char) (following : List Lexeme) : Token × Nat :=
  match constantOf? cs with
  | some value => (.constant value, 0)
  | none => match splitExponent? cs following with
    | some x => (.constant (.float x), 2)
    | none => (.name (String.ofList cs), 0)

/-! ### Marks -/

/-- Whether the first of the following pieces is a given mark. -/
def follows (c : Char) : List Lexeme → Bool
  | .mark d :: _ => c == d
  | _ => false

/-- The token at a mark that has a second form with an equals sign behind it. -/
def withEquals (alone combined : Token) (following : List Lexeme) : Token × Nat :=
  if follows '=' following then (combined, 1) else (alone, 0)

/-- The token at a mark that must be doubled; a third mark may make it an assignment. -/
def doubled (c : Char) (token : Token) (following : List Lexeme) :
    Except Failure (Token × Nat) :=
  match following with
  | [] => .error (.halfOperatorAtEnd (String.singleton c))
  | next :: rest =>
    if follows c following then
      if follows '=' rest then .ok (.assign true, 2) else .ok (token, 1)
    else .error (.halfOperator (String.singleton c) next.text)

/-- The token at a mark, and how many of the following pieces belong to it. -/
def markToken (c : Char) (following : List Lexeme) : Except Failure (Token × Nat) :=
  match c with
  | '+' => .ok (withEquals .plus (.assign true) following)
  | '-' => .ok (withEquals .minus (.assign true) following)
  | '*' => .ok (withEquals .star (.assign true) following)
  | '/' => .ok (withEquals .slash (.assign true) following)
  | '%' => .ok (withEquals .percent (.assign true) following)
  | '^' => .ok (withEquals .hat (.assign true) following)
  | '=' => .ok (withEquals (.assign false) .equal following)
  | '!' => .ok (withEquals .not .notEqual following)
  | '>' => .ok (withEquals .greater .greaterEqual following)
  | '<' => .ok (withEquals .less .lessEqual following)
  | '&' => doubled '&' .and following
  | '|' => doubled '|' .or following
  | '(' => .ok (.opening, 0)
  | ')' => .ok (.closing, 0)
  | ',' => .ok (.comma, 0)
  | _ => .ok (.semicolon, 0)

/-! ### Rows -/

/-- The token at a piece, if it makes one, and how many of the following pieces belong to it. -/
def tokenAt (piece : Lexeme) (following : List Lexeme) : Except Failure (Option Token × Nat) :=
  match piece with
  | .blank => .ok (none, 0)
  | .quoted s => .ok (some (.constant (.str s)), 0)
  | .word cs => let (token, n) := wordToken cs following; .ok (some token, n)
  | .mark c => (fun (token, n) => (some token, n)) <$> markToken c following

/-- The tokens of a row of pieces, of which the first `skip` are used up. -/
def tokensFrom (skip : Nat) : List Lexeme → Except Failure (List Token)
  | [] => .ok []
  | piece :: rest => match skip with
    | skip + 1 => tokensFrom skip rest
    | 0 => match tokenAt piece rest with
      | .error e => .error e
      | .ok (none, n) => tokensFrom n rest
      | .ok (some token, n) => (token :: ·) <$> tokensFrom n rest

/-- The tokens of a row of pieces. -/
def tokens (pieces : List Lexeme) : Except Failure (List Token) := tokensFrom 0 pieces

end Questionnaire.Expression
