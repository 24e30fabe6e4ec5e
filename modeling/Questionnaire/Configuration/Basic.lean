import Questionnaire.FileTree.Operations
import Questionnaire.Number.Arithmetic
import Questionnaire.Number.Written
import Questionnaire.Report
import Questionnaire.Toml.Json
import Questionnaire.Toml.Read

namespace Questionnaire

/-!
# Configurations

A configuration says how questions are asked, and which parameters get their values beforehand.

- `Configuration`: the settings of the session and of each target.
- `Configuration.read`: the configuration that a document describes.
- `Configuration.load`, `Configuration.loadOrDefault`: the configuration in a file.
-/

/-- How questions are asked. -/
structure SessionSettings where
  /-- The user is asked about restoring and saving. -/
  enableSaves : Bool := true
  /-- How many seconds a report stays visible. -/
  reportSeconds : Float := 2.5
  /-- The directory below which configurations are saved. -/
  savesRoot : String := "."

/-- The settings of a target. -/
structure TargetSettings where
  /-- The values given beforehand. -/
  overrides : Option (List (String × Json)) := none

/-- The settings of a session and of the targets. -/
structure Configuration where
  session : SessionSettings := {}
  targets : List (String × TargetSettings) := []

/-! ### Durations -/

/-- A number of seconds, to the nearest nanosecond, a half to the even neighbour.  There is none
    from `2 ^ 64` seconds on. -/
def Duration.ofSeconds? (seconds : Float) : Option Duration :=
  if seconds.isFinite && seconds < Float.ofNat (Number.twoTo 64) then
    some ⟨Number.units 9 (Number.Binary.ofFloat seconds)⟩
  else none

/-- How long a report stays visible; a negative number of seconds counts as none. -/
def SessionSettings.reportTime? (s : SessionSettings) : Option Duration :=
  Duration.ofSeconds? (Number.larger s.reportSeconds 0)

namespace Configuration

/-! ### Reading -/

/-- A truth value. -/
def truth? : Toml → Option Bool
  | .boolean b => some b
  | _ => none

/-- A number; an integer of at most 64 bits widens. -/
def number? : Toml → Option Float
  | .float x => some x
  | .integer i =>
    if Int64.minValue.toInt ≤ i && i < Number.twoTo 64 then some (Float.ofInt i) else none
  | _ => none

/-- A string. -/
def string? : Toml → Option String
  | .string s => some s
  | _ => none

/-- The data under a key, or given data if the key is missing. -/
def fieldOr {α : Type} (decode : Toml → Option α) (key : String) (default : α)
    (entries : Toml.Entries) : Option α :=
  match entries.lookup key with
  | some value => decode value
  | none => some default

/-- The settings of the session. -/
def session? (value : Toml) : Option SessionSettings := do
  let fields ← value.fields? ["enable_saves", "error_message_timeout", "saves_root"]
  let default : SessionSettings := {}
  return {
    enableSaves := ← fieldOr truth? "enable_saves" default.enableSaves fields
    reportSeconds := ← fieldOr number? "error_message_timeout" default.reportSeconds fields
    savesRoot := ← fieldOr string? "saves_root" default.savesRoot fields }

/-- The JSON forms of the entries of a table. -/
def overrides? (value : Toml) : Option (List (String × Json)) :=
  value.entries?.bind Toml.entriesJson?

/-- The settings of a target.  An array has at least one item. -/
def target? (value : Toml) : Option TargetSettings := do
  if let .array _ [] := value then none
  let fields ← value.fields? ["overrides"]
  match fields.lookup "overrides" with
  | some table => (fun overrides => ⟨some overrides⟩) <$> overrides? table
  | none => return {}

/-- The settings of all targets. -/
def targets? (value : Toml) : Option (List (String × TargetSettings)) := do
  (← value.entries?).mapM fun (name, value) => (fun t => (name, t)) <$> target? value

/-- The configuration in the entries of a document. -/
def ofEntries? (entries : Toml.Entries) : Option Configuration := do
  return {
    session := ← fieldOr session? "wizard" {} entries
    targets := ← fieldOr targets? "targets" [] entries }

/-- The configuration that a document describes. -/
def read? (text : String) : Option Configuration := (Toml.read? text).bind ofEntries?

/-! ### Loading -/

/-- Why there is no configuration in a file. -/
inductive LoadError where
  | unreadable (path : String) (cause : FileError)
  | malformed (path : String)
deriving Repr, DecidableEq

/-- The wording of an error. -/
def LoadError.message : LoadError → String
  | .unreadable path cause => s!"Failed to read '{path}': {cause.message}"
  | .malformed path => s!"Failed to parse '{path}': {Toml.malformedMessage}"

/-- The configuration in a file. -/
def load (files : FileTree) (path : String) : Except LoadError Configuration :=
  match files.readText path with
  | .error cause => .error (.unreadable path cause)
  | .ok text => match read? text with
    | some configuration => .ok configuration
    | none => .error (.malformed path)

/-- The configuration in a file, or the default one if there is no file. -/
def loadOrDefault (files : FileTree) (path : String) : Except LoadError Configuration :=
  if files.pathExists path then load files path else .ok {}

end Configuration

end Questionnaire
