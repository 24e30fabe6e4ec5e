import Questionnaire.Arguments
import Questionnaire.FileTree.Path
import Questionnaire.Lindenmayer.Color
import Questionnaire.Lindenmayer.Grammar

namespace Questionnaire.Lindenmayer

/-!
# Settings of a drawing

- `Settings`: everything that a drawing depends on.
- `DrawError`: why there is no drawing, with `DrawError.chain`.
- `Settings.ofArguments`: the settings that arguments describe.
-/

/-- How the steps shrink. -/
inductive Compression where
  /-- The drawing is scaled to fit the canvas. -/
  | auto
  /-- The steps shrink by a factor with every round of derivation. -/
  | factor (f : Float)

/-- Everything that a drawing depends on. -/
structure Settings where
  start : String
  rules : String
  depth : Nat
  angle : Float
  forward : List Char
  stepLength : Float
  initialAngle : Float
  compression : Compression
  coloring : Coloring
  background : Rgb
  /-- Width and height. -/
  canvas : Nat × Nat
  /-- The path of the file to write. -/
  output : Option String
  maxSymbols : Nat

/-! ### Errors -/

/-- Why there is no drawing. -/
inductive DrawError where
  | argument (cause : Arguments.ExtractError)
  | unknownColoring (name : String)
  | notForward (symbol : Char)
  | zeroStep
  | zeroFactor
  | grammar (cause : GrammarError)
  | expansion (cause : Grammar.ExpandError)
  | bracket (index : Nat)
  | output (path : String) (cause : FileError)

/-- The wordings of an error and of its cause, the error first. -/
def DrawError.chain : DrawError → List String
  | .argument cause => cause.chain
  | .unknownColoring name => [Coloring.unknownMessage name]
  | .notForward symbol => [s!"Forward symbol \"{symbol}\" is not a variable"]
  | .zeroStep => ["The step length cannot be zero"]
  | .zeroFactor => ["The compression factor cannot be zero"]
  | .grammar cause => [cause.message]
  | .expansion cause => [cause.message]
  | .bracket index => [traceMessage index]
  | .output path cause => [s!"Failed to write '{path}'", cause.message]

/-! ### Reading -/

/-- A color: three numbers of a byte each. -/
def rgb : Json.Decoder Rgb := fun json =>
  (fun (r, g, b) => ⟨r, g, b⟩) <$> Json.tripleOf (Json.natural 8 "u8") json

/-- A width and a height. -/
def canvasSize : Json.Decoder (Nat × Nat) := Json.pairOf (Json.natural 32 "u32")

/-- The data in an argument that must be there. -/
def required {α : Type} (a : Arguments) (decoder : Json.Decoder α) (name : String) :
    Except DrawError α := (a.extract decoder name).mapError .argument

/-- The compression that arguments describe. -/
def readCompression (a : Arguments) : Except DrawError Compression :=
  let name := "compression_factor"
  let factor := Compression.factor <$> required a Json.float64 name
  match a.get? name with
  | some (.str s) => if s == "auto" then .ok .auto else factor
  | _ => factor

/-- The coloring that arguments describe. -/
def readColoring (a : Arguments) : Except DrawError Coloring :=
  let name := "fg_color"
  match a.get? name with
  | some (.function function) => match Coloring.ofName? function with
    | some coloring => .ok coloring
    | none => .error (.unknownColoring function)
  | _ => Coloring.fixed <$> required a rgb name

/-- The forward symbols that arguments describe. -/
def readForward (a : Arguments) : Except DrawError (List Char) :=
  let symbols := (a.extractOr Json.text "forward" "F").toList
  match symbols.find? fun c => !isLetter c with
  | some c => .error (.notForward c)
  | none => .ok symbols

/-- The settings that arguments describe. -/
def Settings.ofArguments (a : Arguments) : Except DrawError Settings := do
  -- These are read first, so they fail before anything that is required.
  let compression ← readCompression a
  let coloring ← readColoring a
  let forward ← readForward a
  let start ← required a Json.text "axiom"
  let rules ← required a Json.text "rules"
  let depth ← required a (Json.natural 32 "u32") "depth"
  let angle ← required a Json.float64 "angle"
  return {
    start, rules, depth, angle, forward, compression, coloring
    -- What cannot be decoded here is replaced, and nothing is reported.
    stepLength := a.extractOr Json.float64 "step_length" 10
    initialAngle := a.extractOr Json.float64 "initial_angle" 0
    background := a.extractOr rgb "bg_color" ⟨0, 0, 0⟩
    canvas := a.extractOr canvasSize "canvas_size" (800, 800)
    output := a.extractOr (Json.nullable Json.text) "output" none
    maxSymbols := a.extractOr (Json.natural 64 "usize") "_max_symbols" 2000000 }

end Questionnaire.Lindenmayer
