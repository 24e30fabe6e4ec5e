import Questionnaire.Configuration.Basic
import Questionnaire.Override
import Questionnaire.Registry

namespace Questionnaire

/-!
# Checked configurations

- `TargetSettings.arguments`: the values that a configuration gives to a target beforehand.
- `Configuration.Fault`: what is wrong with a configuration, with `Configuration.Fault.message`.
- `Configuration.check`: finds what is wrong before anything is asked.
-/

/-- The values that the settings give to a target beforehand. -/
def TargetSettings.arguments (s : TargetSettings) (t : Target) :
    Except Override.Fault Arguments :=
  match s.overrides with
  | none => .ok Arguments.empty
  | some fields => Override.ofFields t fields

namespace Configuration

/-- What is wrong with a configuration. -/
inductive Fault where
  | badTime (seconds : Float)
  | unknownTarget (name : String) (available : List String)
  | badOverride (target : String) (cause : Override.Fault)

/-- The wording of a fault. -/
def Fault.message : Fault → String
  | .badTime seconds =>
    "wizard.error_message_timeout must be a non-negative number of seconds, got "
      ++ String.ofList (Number.plain seconds)
  | .unknownTarget name available =>
    s!"Unknown target '{name}' in configuration (available: "
      ++ String.intercalate ", " available ++ ")"
  | .badOverride target cause => s!"Invalid overrides for target '{target}': {cause.message}"

/-- Checks the settings of one target. -/
def checkTarget (registry : Registry) (name : String) (s : TargetSettings) : Except Fault Unit :=
  match registry.get? name with
  | none => .error (.unknownTarget name registry.names)
  | some t => match s.arguments t with
    | .ok _ => .ok ()
    | .error cause => .error (.badOverride name cause)

/-- Finds what is wrong with a configuration. -/
def check (c : Configuration) (registry : Registry) : Except Fault Unit :=
  let seconds := c.session.reportSeconds
  if !seconds.isFinite || seconds < 0 then .error (.badTime seconds)
  else c.targets.forM fun (name, s) => checkTarget registry name s

end Configuration

end Questionnaire
