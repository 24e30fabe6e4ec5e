import Questionnaire.Signature.Basic
import Questionnaire.Text.Blank
import Questionnaire.Text.Split
import Questionnaire.Value.Written
import Questionnaire.ValueType.Written

namespace Questionnaire

/-!
# Questions

- `Question`: everything that the user is told when asked for a value.
- `Question.ofParameter`: the question for a parameter.
- `Question.restore`, `Question.savedName`, `Question.save`, `Question.newName`: the questions of
  the session itself.
- `Question.rendered`: the text of a question on a terminal.
-/

/-- What the user is asked for. -/
structure Question where
  parameter : String
  type : ValueType
  /-- The value that a blank answer stands for. -/
  default : Option Value
  /-- The function that the answer is for. -/
  function : String
  doc : Option String
  /-- The answer becomes an argument of the function. -/
  isParameter : Bool

namespace Question

/-! ### The questions of a session -/

/-- The question for a parameter of a function. -/
def ofParameter (function : String) (p : Parameter) : Question where
  parameter := p.name
  type := p.type
  default := p.default
  function := function
  doc := p.doc
  isParameter := true

/-- A question of the session itself that has a default. -/
def ofSession (function name doc : String) (type : ValueType) (default : Value) : Question where
  parameter := name
  type := type
  default := some default
  function := function
  doc := some doc
  isParameter := false

/-- Whether a saved configuration is to be restored. -/
def restore (function : String) : Question :=
  ofSession function "Restore" "Should the configuration be restored from a saved file?" .bool
    (.bool false)

/-- Which saved configuration is to be restored; the first name is the default. -/
def savedName (function latest : String) (names : List String) : Question :=
  ofSession function "Filename"
    ("Enter the name of the saved configuration.\n>>> Available Files: "
      ++ String.intercalate "; " names) .str (.str latest)

/-- Whether the configuration is to be saved. -/
def save (function : String) : Question :=
  ofSession function "Save" "Should the configuration be saved in a file?" .bool (.bool true)

/-- Under which name the configuration is to be saved. -/
def newName (function suggestion : String) : Question :=
  ofSession function "Filename" "Please provide a name for the saved configuration." .str
    (.str suggestion)

/-! ### On a terminal -/

/-- The documentation on few lines: examples start lines of their own. -/
def renderedDoc (q : Question) : String :=
  let text := match q.doc with
    | some doc => Text.collapsed doc
    | none => "No documentation found."
  String.ofList (Text.replaceAll ">>>".toList "\n>>>".toList text.toList)

/-- The hint at the default. -/
def renderedDefault (q : Question) : String :=
  match q.default with
  | some v => s!" Default argument = {v.text} (press enter to keep)"
  | none => ""

/-- The text of the question on a terminal. -/
def rendered (q : Question) : String :=
  let hint := if q.isParameter then
      s!"Please input a value for the parameter {q.parameter} of type {q.type.text}."
    else s!"[{q.type.text}]"
  s!"{q.parameter}: {q.renderedDoc}\n{hint}{q.renderedDefault}... "

end Question

end Questionnaire
