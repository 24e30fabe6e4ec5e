import Questionnaire.Json.Basic
import Questionnaire.Value.Basic

namespace Questionnaire.Value

/-!
# Values and JSON

Values go to JSON for extraction and for output, and come from JSON in a configuration.

- `toJson`: a function becomes the string of its name; a number that is not finite becomes null.
- `ofJson?`: the way back; an integer that is too large for a value becomes a floating point number,
  and there is no value for an object.
-/

mutual

/-- The JSON form of a value. -/
def toJson : Value → Json
  | .none => .null
  | .bool b => .bool b
  | .int i => .int i
  | .float x => Json.ofFloat x
  | .str s => .str s
  | .seq items => .array (toJsonItems items)
  | .function name => .str name

/-- The JSON forms of the items of a list. -/
def toJsonItems : List Value → List Json
  | [] => []
  | item :: rest => toJson item :: toJsonItems rest

end

mutual

/-- The value that a JSON value stands for, if no object occurs in it. -/
def ofJson? : Json → Option Value
  | .null => some .none
  | .bool b => some (.bool b)
  | .int i => some (.int i)
  | .large n => some (.float n.toFloat)
  | .float x => some (.float x)
  | .str s => some (.str s)
  | .array items => (ofJsonItems? items).map Value.seq
  | .object _ => Option.none

/-- The values that several JSON values stand for. -/
def ofJsonItems? : List Json → Option (List Value)
  | [] => some []
  | item :: rest => match ofJson? item, ofJsonItems? rest with
    | some value, some values => some (value :: values)
    | _, _ => Option.none

end

/-- The message for a JSON value that holds an object. -/
def nestedTableMessage : String := "nested tables are not supported as parameter values"

end Questionnaire.Value
