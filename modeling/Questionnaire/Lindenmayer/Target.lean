import Questionnaire.Lindenmayer.Drawing
import Questionnaire.Signature.Doc
import Questionnaire.Target

namespace Questionnaire.Lindenmayer

/-!
# Drawing as a target

- `signature`: the parameters of a drawing.
- `draw`: draws, writes the picture if a path is given, and gives the summary.
- `target`: both together.
-/

/-- The documentation of the function and its parameters. -/
def doc : String :=
"Draws a Lindenmayer system supporting the square bracket syntax.

:param axiom: The initial axiom. May contain uppercase letters (variables), \"+\" (right turn), \"-\" (left turn),
              \"[\" (store turtle position and heading) and \"]\" (restore stored state).
              >>> \"X\"
:param rules: The production rules, separated by semicolons. Each rule maps a variable (uppercase letter) to
              its replacement.
              >>> \"F -> FF; X -> F+[[X]-X]-F[-FX]+X\"
:param depth: How many times the rules are applied to the axiom.
              >>> 4
:param angle: The angle in degrees by which the turtle turns.
              >>> 25.0
:param forward: The variables that move the turtle forward and draw.
              >>> \"F\"
:param step_length: The length of one forward movement.
              >>> 10.0
:param initial_angle: The initial heading of the turtle. Rotates the drawing.
              >>> 0.0
:param compression_factor: By what factor the step length shrinks per level of depth:
                           step_length * compression_factor ** depth. 'auto' fits the drawing to the canvas.
              >>> 'auto'
:param fg_color: Either the rgb values of the line color or one of the color functions
                 rainbow, random or heading.
              >>> (122, 255, 122)
              >>> rainbow
:param bg_color: The rgb values of the background color.
              >>> (0, 0, 0)
:param canvas_size: Width and height of the canvas.
              >>> (800, 800)
:param output: Path of an SVG file to write the drawing to, or None.
              >>> \"fern.svg\"
:param _max_symbols: Upper bound on the length of the expanded axiom."

/-- A parameter with the part of the documentation that describes it. -/
def parameter (name : String) (type : ValueType) (default : Option Value) : Parameter :=
  ⟨name, type, default, Signature.paramDoc? doc name⟩

/-- The parameters of a drawing. -/
def signature : Signature where
  name := "lindenmayer"
  doc := some doc
  params :=
    let color : ValueType := .tuple [.int, .int, .int]
    let gray := fun (n : Int64) => Value.seq [.int n, .int n, .int n]
    [parameter "axiom" .str none,
      parameter "rules" .str none,
      parameter "depth" (.ranged .int (some 1) none) none,
      parameter "angle" .float none,
      parameter "forward" .str (some (.str "F")),
      parameter "step_length" .float (some (.float 10)),
      parameter "initial_angle" .float (some (.float 0)),
      parameter "compression_factor" (.union [.literal [.str "auto"], .float])
        (some (.str "auto")),
      parameter "fg_color" (.union [color, .function]) (some (gray 255)),
      parameter "bg_color" color (some (gray 0)),
      parameter "canvas_size" (.tuple [.int, .int]) (some (.seq [.int 800, .int 800])),
      parameter "output" (.optional .str) (some .none),
      parameter "_max_symbols" .int (some (.int 2000000))]

/-- The summary of the drawing that arguments describe, and the files with the picture if a path is
    given; `chance` gives the random colors. -/
def draw (chance : Nat → Rgb) (a : Arguments) (files : FileTree) :
    Except DrawError (Json × FileTree) := do
  let settings ← Settings.ofArguments a
  let drawing ← Drawing.ofSettings settings chance
  match settings.output with
  | none => return (.object drawing.summary, files)
  -- The picture is written before the path is told.
  | some path =>
    let files ← (files.write path drawing.svg.toUTF8).mapError (DrawError.output path)
    return (.object (drawing.summary ++ [("output", .str path)]), files)

/-- The target that draws. -/
def target (chance : Nat → Rgb) : Target where
  signature := signature
  functions := Coloring.names
  invoke a files := match draw chance a files with
    | .ok (result, files) => (.done result, files)
    | .error e => (.failed e.chain, files)

end Questionnaire.Lindenmayer
