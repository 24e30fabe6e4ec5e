import Questionnaire.Toml.Json
import Questionnaire.Toml.Read

namespace Questionnaire

/-!
# Saved configurations

A saved configuration holds the answers that were entered, by parameter.  As a document it has the
name of the function and a table of answers.

- `Saved`: the answers.
- `Saved.document`: the text of the document.
- `Saved.read`: the answers in a document, with `Saved.ReadError`.
-/

/-- Answers by parameter, in the order of the questions. -/
structure Saved where
  values : List (String × String)
deriving Repr, DecidableEq

namespace Saved

/-- The answer for a parameter. -/
def get? (s : Saved) (name : String) : Option String := s.values.lookup name

/-! ### Writing -/

/-- A line of a document: a key and a string. -/
def line (key value : String) : List Char :=
  Toml.quotedKey key ++ " = ".toList ++ Toml.quoted value ++ ['\n']

/-- The document of a configuration.  Of several answers for one parameter the last one counts, in
    the place of the first. -/
def document (function : String) (s : Saved) : String :=
  let lines := (Keyed.putAll s.values []).flatMap fun (key, value) => line key value
  String.ofList (line "function" function ++ '\n' :: "[values]".toList ++ '\n' :: lines)

/-! ### Reading -/

/-- Why a document gives no configuration of a function. -/
inductive ReadError where
  /-- The text is no document of this kind. -/
  | malformed
  /-- The document is of another function. -/
  | foreign (owner : String)
  /-- A value is no string. -/
  | notString (key : String)
deriving Repr, DecidableEq

/-- The answers in the entries of a table, all of which are strings. -/
def answers : Toml.Entries → Except ReadError (List (String × String))
  | [] => .ok []
  | (key, .string answer) :: rest => ((key, answer) :: ·) <$> answers rest
  | (key, _) :: _ => .error (.notString key)

/-- The name of the function and the table of answers in a document.  The table may be missing. -/
def parts? (entries : Toml.Entries) : Option (String × Toml.Entries) :=
  match entries.lookup "function" with
  | some (.string owner) => match entries.lookup "values" with
    | none => some (owner, [])
    | some table =>
      if table.hasNarrowIntegers then table.entries?.map fun values => (owner, values) else none
  | _ => none

/-- The configuration of a function in a document. -/
def read (function : String) (text : String) : Except ReadError Saved :=
  match (Toml.read? text).bind parts? with
  | none => .error .malformed
  | some (owner, values) =>
    if owner != function then .error (.foreign owner) else Saved.mk <$> answers values

end Saved

end Questionnaire
