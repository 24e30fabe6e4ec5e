import Questionnaire.Answer.Evaluate
import Questionnaire.Target
import Questionnaire.Text.Split
import Questionnaire.Value.Written
import Questionnaire.ValueType.Written

namespace Questionnaire.Override

/-!
# Overrides

An override gives a parameter its value before any question is asked.  It comes from a
configuration, as JSON, or from the command line, as an assignment.

- `Fault`: why there is no override, with `Fault.message`.
- `check`: the value, if its parameter admits it.
- `ofJson`: the override in a configuration.
- `parse`: the override in an assignment.
-/

/-- Why there is no override. -/
inductive Fault where
  | nested (name : String)
  | unknown (function name : String)
  | misfit (value : Value) (name : String) (type : ValueType)
  | notAssignment (text : String)
  | answer (name : String) (cause : Answer.Fault)

/-- The wording of a fault. -/
def Fault.message : Fault → String
  | .nested name => s!"Override '{name}': {Value.nestedTableMessage}"
  | .unknown function name => s!"'{function}' has no parameter named '{name}'"
  | .misfit value name type => s!"Override {value.text} of '{name}' is not a valid {type.text}"
  | .notAssignment text => s!"Override '{text}' is not of the form NAME=VALUE"
  | .answer name cause => s!"Override '{name}': {cause.message}"

/-- The value, if its parameter admits it. -/
def check (t : Target) (name : String) (value : Value) : Except Fault Value :=
  match t.signature.param? name with
  | none => .error (.unknown t.name name)
  | some p => if p.type.accepts value then .ok value else .error (.misfit value name p.type)

/-- A string that names a function of the target becomes a reference to it, where the parameter
    admits a reference and no string. -/
def resolve (t : Target) (name : String) (value : Value) : Value :=
  match value, t.signature.param? name with
  | .str s, some p =>
    if t.functions.contains s && !p.type.accepts value && p.type.accepts (.function s) then
      .function s
    else value
  | _, _ => value

/-- The override in a configuration. -/
def ofJson (t : Target) (name : String) (json : Json) : Except Fault Value :=
  match Value.ofJson? json with
  | none => .error (.nested name)
  | some value => check t name (resolve t name value)

/-- The overrides in a configuration. -/
def ofFields (t : Target) (fields : List (String × Json)) : Except Fault Arguments :=
  fields.foldlM (fun a (name, json) => (a.insert name ·) <$> ofJson t name json) Arguments.empty

/-- The override in an assignment `NAME=VALUE`, where the value is written like an answer. -/
def parse (t : Target) (assignment : String) : Except Fault (String × Value) :=
  match Text.splitOnce? ['='] assignment.toList with
  | none => .error (.notAssignment assignment)
  | some (left, right) =>
    let name := String.ofList (Text.trim left)
    match Answer.evaluate t.functions (String.ofList right) with
    | .error cause => .error (.answer name cause)
    | .ok value => (fun value => (name, value)) <$> check t name value

end Questionnaire.Override
