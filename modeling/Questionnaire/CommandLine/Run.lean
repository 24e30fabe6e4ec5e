import Questionnaire.CommandLine.Log
import Questionnaire.CommandLine.Options
import Questionnaire.Configuration.Check
import Questionnaire.Json.Written
import Questionnaire.Session.Run
import Questionnaire.Session.Source

namespace Questionnaire

/-!
# Runs of the program

- `Conditions`: everything that a run depends on.
- `Conclusion`: everything that comes of it.
- `Plan`: a run that is ready to start, with `Plan.make`.
- `Conditions.run`: the run.
-/

/-- Everything that a run depends on. -/
structure Conditions where
  arguments : List String
  /-- What is entered on the terminal. -/
  input : ByteArray
  files : FileTree
  /-- The random colors of drawings. -/
  chance : Nat → Lindenmayer.Rgb

/-- Everything that comes of a run. -/
structure Conclusion where
  code : Nat
  /-- What is written on the terminal. -/
  output : String
  /-- What is written for errors, before the run ends. -/
  messages : List String
  /-- What is written for the error that ends the run. -/
  verdict : Option String
  files : FileTree
  /-- The run stopped because nothing more was entered. -/
  isWaiting : Bool

/-! ### Preparation -/

/-- Why a run does not start. -/
inductive StartError where
  | config (path : String) (cause : Configuration.LoadError)
  | invalid (cause : Configuration.Fault)
  | unknownTarget (name : String) (available : List String)
  | override (cause : Override.Fault)
  | answers (message : String)
  /-- A report would have to stay visible for too long. -/
  | time

/-- The wording of an error. -/
def StartError.message : StartError → String
  | .config path cause => s!"Failed to load config from '{path}': {cause.message}"
  | .invalid cause => s!"Configuration error: {cause.message}"
  | .unknownTarget name available =>
    s!"Unknown target '{name}'. Available targets: " ++ String.intercalate ", " available
  | .override cause => cause.message
  | .answers message => message
  | .time => ""

/-- The program breaks off instead of ending with a message. -/
def StartError.isCrash : StartError → Bool
  | .override (.answer _ .crash) => true
  | .time => true
  | _ => false

/-- A run that is ready to start. -/
structure Plan where
  target : Target
  overrides : Arguments
  setup : Setup
  source : Source

namespace Plan

/-- The overrides of a target: those in the configuration, and over them those given on the command
    line. -/
def overrides? (c : Configuration) (t : Target) (assignments : List String) :
    Except Override.Fault Arguments := do
  let configured ← match c.targets.lookup t.name with
    | some s => s.arguments t
    | none => .ok Arguments.empty
  assignments.foldlM
    (fun a assignment => (fun (name, v) => a.insert name v) <$> Override.parse t assignment)
    configured

/-- The configuration that options ask for, if nothing is wrong with it. -/
def configuration (o : Options) (registry : Registry) (files : FileTree) :
    Except StartError Configuration := do
  let path := o.config.getD "./paramwiz.toml"
  let c ← (Configuration.loadOrDefault files path).mapError (.config path)
  (c.check registry).mapError .invalid
  return c

/-- The plan of a run with given options. -/
def make (o : Options) (registry : Registry) (files : FileTree) (input : ByteArray) :
    Except StartError Plan := do
  let c ← configuration o registry files
  let name := o.target.getD "lindenmayer"
  let target ← match registry.get? name with
    | some t => pure t
    | none => .error (.unknownTarget name registry.names)
  -- Assignments come last, so each of them wins over the configuration.
  let overrides ← (overrides? c target o.assignments).mapError .override
  let source ← match o.answers with
    | some path => (Source.load files path).mapError .answers
    | none => pure (Source.ofTerminal input)
  let reportTime ← match c.session.reportTime? with
    | some time => pure time
    | none => .error .time
  let setup : Setup := {
    functions := target.functions
    reportTime
    enableSaves := c.session.enableSaves && !o.noSaves
    savesRoot := c.session.savesRoot }
  return { target, overrides, setup, source }

end Plan

/-! ### What is written -/

/-- The source of errors of the program as a whole. -/
def programSource : String := "paramwiz"

/-- The source of errors of targets. -/
def targetSource : String := "paramwiz::wizard"

/-- What is written on the terminal at an event.  A script answers questions unseen. -/
def Event.output (e : Event) (onTerminal : Bool) : String :=
  match e with
  | .asked q => if onTerminal then q.rendered else ""
  | .answered => if onTerminal then Terminal.separator else ""
  | .printed result => result.pretty ++ "\n"
  | .reported _ => ""
  | .failed _ _ => ""

/-- What is written for errors at an event. -/
def Event.messages (e : Event) (log : LogFilter) : List String :=
  match e with
  | .reported r => [r.line]
  | .failed function message => (log.line? targetSource s!"'{function}' failed: {message}").toList
  | _ => []

/-! ### The run -/

/-- How a session ends: the exit code, and a message unless all is well. -/
def Plan.ending (p : Plan) : Option Stop → Nat × Option String
  | none => (0, none)
  | some (.unanswered q) => (1, some s!"Session ended: {p.source.ending.message q}")
  | some .crashed => (101, none)

/-- Runs a plan. -/
def Plan.run (p : Plan) (log : LogFilter) (files : FileTree) : Conclusion :=
  let result := p.setup.repeatRun p.target p.overrides ⟨p.source.answers, files, []⟩
  let (stop, session) := match result with
    | .ok () s => (none, s)
    | .error stop s => (some stop, s)
  let (code, message) := p.ending stop
  let onTerminal := p.source.ending != .script
  { code
    output := String.join (session.events.map (·.output onTerminal))
    messages := session.events.flatMap (·.messages log)
    verdict := message.bind (log.line? programSource)
    files := session.files
    isWaiting := stop.isSome && code == 1 && p.source.ending == .closed }

/-- The list of targets, as it is shown. -/
def Registry.listing (r : Registry) : String :=
  String.join ("Available targets:\n" :: r.names.map fun name => s!"  - {name}\n")

namespace Conditions

/-- A run that ends before any question is asked. -/
def conclude (c : Conditions) (code : Nat) (output : String) (verdict : Option String) :
    Conclusion :=
  { code, output, messages := [], verdict, files := c.files, isWaiting := false }

/-- A run with given options. -/
def runWith (c : Conditions) (o : Options) : Conclusion :=
  let registry := Registry.builtin c.chance
  let log := LogFilter.read (o.logLevel.getD "info")
  if o.listTargets then c.conclude 0 registry.listing none
  else match Plan.make o registry c.files c.input with
    | .ok plan => plan.run log c.files
    -- Where a plan breaks off, nothing is told but by the panic itself.
    | .error e =>
      if e.isCrash then c.conclude 101 "" none
      else c.conclude 1 "" (log.line? programSource e.message)

/-- A run of the program. -/
def run (c : Conditions) : Conclusion :=
  match Options.parse c.arguments with
  | .ok o => c.runWith o
  | .error .help => c.conclude 0 Options.helpText none
  | .error .version => c.conclude 0 Options.versionText none
  | .error refusal => c.conclude 2 "" (some (refusal.message ++ "\n\n" ++ Options.usage))

end Conditions

end Questionnaire
