import Questionnaire.Json.Decode
import Questionnaire.Keyed
import Questionnaire.Value.Json
import Questionnaire.Value.Written

namespace Questionnaire

/-!
# Arguments

The values of parameters, by name.

- `Arguments`: at most one value for each name.
- `Arguments.insert`, `Arguments.merge`, `Arguments.ofList`: building.
- `Arguments.extract`: the data that a decoder finds in the value of a name;
  `Arguments.extractOr` falls back to given data.
-/

/-- Values by name. -/
structure Arguments where
  entries : List (String × Value)

namespace Arguments

/-- No values. -/
def empty : Arguments := ⟨[]⟩

/-- The value of a name. -/
def get? (a : Arguments) (name : String) : Option Value := a.entries.lookup name

/-- Whether there is a value of a name. -/
def contains (a : Arguments) (name : String) : Bool := (a.get? name).isSome

/-- The number of values. -/
def size (a : Arguments) : Nat := a.entries.length

/-- Sets the value of a name. -/
def insert (a : Arguments) (name : String) (value : Value) : Arguments :=
  ⟨Keyed.put name value a.entries⟩

/-- Sets the values of `other`, which replace values of the same names. -/
def merge (a other : Arguments) : Arguments := ⟨Keyed.putAll other.entries a.entries⟩

/-- The values of a list of pairs; of several for one name the last one counts. -/
def ofList (pairs : List (String × Value)) : Arguments := ⟨Keyed.putAll pairs []⟩

/-- The values as a JSON object. -/
def toJson (a : Arguments) : Json := .object (a.entries.map fun (name, v) => (name, v.toJson))

/-! ### Extraction -/

/-- Why an argument could not be extracted. -/
inductive ExtractError where
  | missing (name : String)
  | mismatch (name : String) (value : Value) (cause : Json.Mismatch)

/-- The wordings of an error and of its cause, the error first. -/
def ExtractError.chain : ExtractError → List String
  | .missing name => [s!"Missing argument '{name}'"]
  | .mismatch name value cause =>
    [s!"Argument '{name}' has an unexpected shape: {value.text}", cause.message]

/-- The wording of an error with its cause. -/
def ExtractError.message (e : ExtractError) : String := String.intercalate ": " e.chain

/-- The data in the value of a name. -/
def extract {α : Type} (a : Arguments) (decoder : Json.Decoder α) (name : String) :
    Except ExtractError α :=
  match a.get? name with
  | none => .error (.missing name)
  | some value => (decoder value.toJson).mapError (.mismatch name value)

/-- The data in the value of a name, or given data if there is no value or it does not fit. -/
def extractOr {α : Type} (a : Arguments) (decoder : Json.Decoder α) (name : String) (default : α) :
    α :=
  match a.extract decoder name with
  | .ok data => data
  | .error _ => default

end Arguments

end Questionnaire
