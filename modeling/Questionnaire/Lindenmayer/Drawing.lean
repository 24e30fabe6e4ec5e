import Questionnaire.Lindenmayer.Settings
import Questionnaire.Number.Written

namespace Questionnaire.Lindenmayer

/-!
# Drawings

- `Drawing`: the strokes of a turtle on a canvas.
- `Drawing.ofSettings`: the drawing that settings describe.
- `Drawing.svg`: the drawing as a picture, one line element for each stroke.
- `Drawing.summary`: the drawing in numbers.
-/

/-- The strokes of a turtle, and how they lie on a canvas. -/
structure Drawing where
  /-- The length of the word that was drawn. -/
  symbols : Nat
  strokes : List (Segment × Rgb)
  bounds : Bounds
  background : Rgb
  canvas : Nat × Nat
  scale : Float
  /-- The point that lies in the middle of the canvas. -/
  center : Point

namespace Drawing

/-- The share of the canvas that a fitted drawing fills. -/
def fittedShare : Float := 0.9

/-- The length of a step in a drawing.  The depth counts as a signed number of 32 bits. -/
def stride (s : Settings) : Except DrawError Float :=
  if s.stepLength == 0 then .error .zeroStep
  else match s.compression with
    | .auto => .ok s.stepLength
    | .factor f =>
      if f == 0 then .error .zeroFactor
      else .ok (s.stepLength * Number.power f (Int32.ofNat s.depth).toInt)

/-- Strokes with their colors. -/
def colored (s : Settings) (chance : Nat → Rgb) (segments : List Segment) :
    List (Segment × Rgb) :=
  let total := segments.length
  segments.zipIdx.map fun (segment, i) => (segment, s.coloring.color chance segment i total)

/-- The scale of a drawing with given bounds, and the point in its middle. -/
def placement (s : Settings) (bounds : Bounds) : Float × Point :=
  match s.compression with
  | .auto => (bounds.fit s.canvas fittedShare, bounds.center)
  | .factor _ => (1, ⟨0, 0⟩)

/-- The drawing that settings describe; `chance` gives the random colors. -/
def ofSettings (s : Settings) (chance : Nat → Rgb) : Except DrawError Drawing := do
  -- Each step may fail, and the first one that does tells why.
  let stride ← stride s
  let grammar ← (Grammar.read s.start s.rules).mapError DrawError.grammar
  let word ← (grammar.expand s.depth s.maxSymbols).mapError DrawError.expansion
  let pace : Pace := ⟨s.forward, s.angle, stride⟩
  let segments ← (trace word pace s.initialAngle).mapError DrawError.bracket
  let bounds := Bounds.ofSegments segments
  let (scale, center) := placement s bounds
  return ⟨word.length, colored s chance segments, bounds, s.background, s.canvas, scale, center⟩

/-! ### Picture -/

/-- Where a point lies on the canvas, from the upper left corner. -/
def project (d : Drawing) (p : Point) : Point :=
  ⟨Float.ofNat d.canvas.1 / 2 + (p.x - d.center.x) * d.scale,
    Float.ofNat d.canvas.2 / 2 - (p.y - d.center.y) * d.scale⟩

/-- A color in a picture. -/
def paint (c : Rgb) : String := s!"rgb({c.red},{c.green},{c.blue})"

/-- A coordinate in a picture. -/
def coordinate (x : Float) : String := String.ofList (Number.fixed 2 x)

/-- The line element of a stroke. -/
def lineElement (d : Drawing) (segment : Segment) (color : Rgb) : String :=
  let p := d.project segment.start
  let q := d.project segment.finish
  s!"<line x1=\"{coordinate p.x}\" y1=\"{coordinate p.y}\" x2=\"{coordinate q.x}\" "
    ++ s!"y2=\"{coordinate q.y}\" stroke=\"{paint color}\"/>\n"

/-- The lines before the strokes. -/
def opening (d : Drawing) : String :=
  let width := d.canvas.1
  let height := d.canvas.2
  s!"<svg xmlns=\"http://www.w3.org/2000/svg\" width=\"{width}\" height=\"{height}\" "
    ++ s!"viewBox=\"0 0 {width} {height}\">\n"
    ++ s!"<rect width=\"100%\" height=\"100%\" fill=\"{paint d.background}\"/>\n"

/-- The drawing as a picture. -/
def svg (d : Drawing) : String :=
  d.opening ++ String.join (d.strokes.map fun (s, c) => d.lineElement s c) ++ "</svg>\n"

/-! ### Summary -/

/-- A point in a summary. -/
def pointJson (p : Point) : Json := .array [Json.ofFloat p.x, Json.ofFloat p.y]

/-- The drawing in numbers. -/
def summary (d : Drawing) : List (String × Json) :=
  [("symbols", .int (Int64.ofNat d.symbols)), ("segments", .int (Int64.ofNat d.strokes.length)),
    ("min", pointJson d.bounds.low), ("max", pointJson d.bounds.high),
    ("scale", Json.ofFloat d.scale)]

end Drawing

end Questionnaire.Lindenmayer
