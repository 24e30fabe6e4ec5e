import Questionnaire.Text.Split

namespace Questionnaire

/-!
# Command line options

- `Options`: what the arguments of the command line ask for.
- `Options.Refusal`: why there is nothing to run.
- `Options.parse`: the options in a list of arguments.
-/

/-- What the arguments of the command line ask for. -/
structure Options where
  target : Option String := none
  config : Option String := none
  logLevel : Option String := none
  listTargets : Bool := false
  noSaves : Bool := false
  /-- Overrides, as they were given. -/
  assignments : List String := []
  /-- The path of a script. -/
  answers : Option String := none
deriving Repr, DecidableEq

namespace Options

/-! ### The options -/

/-- An option without a value. -/
inductive Switch where
  | listTargets
  | noSaves
  | help
  | version
deriving Repr, DecidableEq

/-- An option with a value. -/
inductive Field where
  | config
  | logLevel
  | assignment
  | answers
deriving Repr, DecidableEq

/-- An option. -/
inductive Kind where
  | switch (s : Switch)
  | field (f : Field)
deriving Repr, DecidableEq

/-- The option of a long name. -/
def ofLong? (name : String) : Option Kind :=
  match name with
  | "config" => some (.field .config)
  | "log-level" => some (.field .logLevel)
  | "set" => some (.field .assignment)
  | "answers" => some (.field .answers)
  | "list-targets" => some (.switch .listTargets)
  | "no-saves" => some (.switch .noSaves)
  | "help" => some (.switch .help)
  | "version" => some (.switch .version)
  | _ => none

/-- The option of a letter. -/
def ofShort? (letter : Char) : Option Kind :=
  match letter with
  | 'c' => some (.field .config)
  | 'l' => some (.field .logLevel)
  | 's' => some (.field .assignment)
  | 'L' => some (.switch .listTargets)
  | 'h' => some (.switch .help)
  | 'V' => some (.switch .version)
  | _ => none

/-- An option as messages name it. -/
def Kind.shown : Kind → String
  | .field .config => "--config <CONFIG>"
  | .field .logLevel => "--log-level <LOG_LEVEL>"
  | .field .assignment => "--set <NAME=VALUE>"
  | .field .answers => "--answers <FILE>"
  | .switch .listTargets => "--list-targets"
  | .switch .noSaves => "--no-saves"
  | .switch .help => "--help"
  | .switch .version => "--version"

/-! ### Refusals -/

/-- Why there is nothing to run. -/
inductive Refusal where
  /-- The user asks for help. -/
  | help
  /-- The user asks for the version. -/
  | version
  | unexpected (argument : String)
  | missingValue (option : Kind)
  | repeated (option : Kind)
  | unwantedValue (value : String) (option : Kind)
deriving Repr, DecidableEq

/-- The version of the program. -/
def versionText : String := "paramwiz 0.1.0\n"

/-- The line on how to call the program. -/
def usage : String := "Usage: paramwiz [OPTIONS] [TARGET]\n"

/-- The help on all options. -/
def helpText : String :=
  "Collects, validates, saves and restores the arguments of a function, then runs it\n\n" ++ usage
    ++ "
Arguments:
  [TARGET]  Target function to run [default: lindenmayer]

Options:
  -c, --config <CONFIG>        Configuration file path (optional) [default: ./paramwiz.toml]
  -l, --log-level <LOG_LEVEL>  Log level (trace, debug, info, warn, error) [default: info]
  -L, --list-targets           List available targets
      --no-saves               Never ask to restore or save configurations
  -s, --set <NAME=VALUE>       Fix a parameter instead of prompting for it (repeatable)
      --answers <FILE>         Read answers from a file, one per line, instead of the terminal
  -h, --help                   Print help
  -V, --version                Print version
"

/-- The wording of a refusal. -/
def Refusal.message : Refusal → String
  | .help => helpText
  | .version => versionText
  | .unexpected argument => s!"error: unexpected argument '{argument}' found"
  | .missingValue option =>
    s!"error: a value is required for '{option.shown}' but none was supplied"
  | .repeated option => s!"error: the argument '{option.shown}' cannot be used multiple times"
  | .unwantedValue value option =>
    s!"error: unexpected value '{value}' for '{option.shown}' found; no more were expected"

/-! ### Parsing -/

/-- The options after a switch. -/
def turnOn (o : Options) (s : Switch) : Except Refusal Options :=
  match s with
  | .help => .error .help
  | .version => .error .version
  | .listTargets =>
    if o.listTargets then .error (.repeated (.switch s)) else .ok { o with listTargets := true }
  | .noSaves => if o.noSaves then .error (.repeated (.switch s)) else .ok { o with noSaves := true }

/-- The options after an option with its value. -/
def give (o : Options) (f : Field) (value : String) : Except Refusal Options :=
  let again := Except.error (.repeated (.field f))
  match f with
  | .assignment => .ok { o with assignments := o.assignments ++ [value] }
  | .config => if o.config.isSome then again else .ok { o with config := some value }
  | .logLevel => if o.logLevel.isSome then again else .ok { o with logLevel := some value }
  | .answers => if o.answers.isSome then again else .ok { o with answers := some value }

/-- The options after an argument that is no option. -/
def givePosition (o : Options) (argument : String) : Except Refusal Options :=
  if o.target.isSome then .error (.unexpected argument) else .ok { o with target := some argument }

/-- What an argument amounts to. -/
inductive Step where
  | done (o : Options)
  /-- The next argument is the value of an option. -/
  | awaits (o : Options) (f : Field)

/-- The options after a long name and perhaps a value. -/
def stepLong (o : Options) (argument name : String) (value : Option String) :
    Except Refusal Step :=
  match ofLong? name, value with
  | none, _ => .error (.unexpected argument)
  | some (.field f), some value => Step.done <$> o.give f value
  | some (.field f), none => .ok (.awaits o f)
  | some (.switch s), none => Step.done <$> o.turnOn s
  | some (.switch s), some value => .error (.unwantedValue value (.switch s))

/-- The options after a row of letters.  The letters after one that takes a value are its value. -/
def stepShort (o : Options) : List Char → Except Refusal Step
  | [] => .ok (.done o)
  | c :: rest => match ofShort? c with
    | none => .error (.unexpected ("-" ++ String.singleton c))
    | some (.switch s) => match o.turnOn s with
      | .ok o => o.stepShort rest
      | .error e => .error e
    -- Whatever is left of the letters is the value, with or without an equals sign.
    | some (.field f) => match rest with
      | [] => .ok (.awaits o f)
      | '=' :: value => Step.done <$> o.give f (String.ofList value)
      | value => Step.done <$> o.give f (String.ofList value)

/-- The options after an argument. -/
def step (o : Options) (argument : String) : Except Refusal Step :=
  match argument.toList with
  | '-' :: '-' :: name => match Text.splitOnce? ['='] name with
    | some (name, value) =>
      o.stepLong argument (String.ofList name) (some (String.ofList value))
    | none => o.stepLong argument (String.ofList name) none
  | '-' :: c :: rest => o.stepShort (c :: rest)
  | _ => Step.done <$> o.givePosition argument

/-- An argument that cannot be the value of the option before it. -/
def isOption (argument : String) : Bool :=
  match argument.toList with
  | '-' :: _ :: _ => true
  | _ => false

/-- The options after more arguments.  After two dashes there are no more options. -/
def parseFrom (o : Options) : List String → Except Refusal Options
  | [] => .ok o
  | argument :: rest =>
    -- Behind two dashes there are no options any more.
    if argument == "--" then rest.foldlM givePosition o
    else match o.step argument with
      | .error e => .error e
      | .ok (.done o) => o.parseFrom rest
      | .ok (.awaits o f) => match rest with
        | [] => .error (.missingValue (.field f))
        | value :: rest =>
          -- What looks like an option is not taken for a value.
          if isOption value then .error (.missingValue (.field f))
          else match o.give f value with
            | .ok o => o.parseFrom rest
            | .error e => .error e

/-- The options in a list of arguments. -/
def parse (arguments : List String) : Except Refusal Options := parseFrom {} arguments

end Options

end Questionnaire
