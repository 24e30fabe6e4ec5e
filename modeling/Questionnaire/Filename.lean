import Questionnaire.Value.Basic

namespace Questionnaire.Filename

/-!
# Names of saved configurations

A saved configuration is named by a string that is not empty and holds no reserved character.

- `reserved`: the characters that may not stand in a name.
- `check`: the name that a value gives, or what is wrong with it.
-/

/-- The characters that may not stand in a name. -/
def reserved : List Char := ['\\', '/', ':', '*', '?', '"', '<', '>', '|']

/-- What is wrong with a name. -/
inductive Fault where
  | notString
  | empty
  | reservedCharacter
deriving Repr, DecidableEq

/-- The wording of a fault. -/
def Fault.message : Fault → String
  | .notString => "The filename has to be a string."
  | .empty => "The filename cannot be empty."
  | .reservedCharacter => "The filename contains an invalid character."

/-- The name that a value gives. -/
def check (value : Value) : Except Fault String :=
  match value.asStr? with
  | none => .error .notString
  | some name =>
    if name.isEmpty then .error .empty
    else if name.toList.any reserved.contains then .error .reservedCharacter
    else .ok name

end Questionnaire.Filename
