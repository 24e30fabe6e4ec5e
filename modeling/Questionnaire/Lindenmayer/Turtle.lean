import Questionnaire.Number.Arithmetic

namespace Questionnaire.Lindenmayer

/-!
# The turtle

A turtle walks over the symbols of a word and leaves a segment at every forward step.

- `Turtle`, `Segment`: where the turtle stands, and what it draws.
- `Pace`: how far it goes and turns, and at which symbols it goes forward.
- `Walk`: the state of a walk; `Walk.step` is one symbol.
- `trace`: the segments of a word.
- `Bounds`: the extent of a drawing.
-/

/-- A point of the plane. -/
structure Point where
  x : Float
  y : Float

/-- The position of the turtle, and its heading in degrees. -/
structure Turtle where
  position : Point
  heading : Float

/-- A stroke of the turtle. -/
structure Segment where
  start : Point
  finish : Point
  heading : Float

/-- How the turtle moves. -/
structure Pace where
  /-- The symbols at which it goes forward. -/
  forward : List Char
  /-- The angle of one turn, in degrees. -/
  angle : Float
  /-- The length of one step. -/
  stride : Float

/-- A heading within a full turn. -/
def turned (heading : Float) : Float := Number.wrapped heading 360

/-- Degrees in radians. -/
def radians (degrees : Float) : Float := degrees * (3.14159265358979323846 / 180)

/-! ### Walking -/

/-- A walk so far: the turtle, the turtles remembered at open brackets, the latest first, and the
    segments drawn, the latest first. -/
structure Walk where
  turtle : Turtle
  remembered : List Turtle
  drawn : List Segment

namespace Walk

/-- The beginning of a walk.  A heading of zero points up. -/
def start (initialAngle : Float) : Walk := ⟨⟨⟨0, 0⟩, turned (initialAngle + 90)⟩, [], []⟩

/-- One step forward. -/
def stride (w : Walk) (pace : Pace) : Walk :=
  let heading := w.turtle.heading
  let position := w.turtle.position
  let finish : Point := ⟨position.x + pace.stride * (radians heading).cos,
    position.y + pace.stride * (radians heading).sin⟩
  { w with turtle := ⟨finish, heading⟩, drawn := ⟨position, finish, heading⟩ :: w.drawn }

/-- A turn by an angle, to the left. -/
def turn (w : Walk) (angle : Float) : Walk :=
  { w with turtle := { w.turtle with heading := turned angle } }

/-- One symbol.  A closing bracket without an opening one ends the walk. -/
def step (w : Walk) (pace : Pace) (symbol : Char) : Option Walk :=
  match symbol with
  | '[' => some { w with remembered := w.turtle :: w.remembered }
  | ']' => match w.remembered with
    | [] => none
    | turtle :: rest => some { w with turtle := turtle, remembered := rest }
  | '+' => some (w.turn (w.turtle.heading - pace.angle))
  | '-' => some (w.turn (w.turtle.heading + pace.angle))
  -- Symbols that do not draw are passed over.
  | c => if pace.forward.contains c then some (w.stride pace) else some w

/-- The rest of a walk, over symbols of which the first has a given index.  Fails with the index
    of a closing bracket that ends the walk. -/
def run (w : Walk) (pace : Pace) (index : Nat) : List Char → Except Nat Walk
  | [] => .ok w
  | symbol :: rest => match w.step pace symbol with
    | none => .error index
    | some w => w.run pace (index + 1) rest

end Walk

/-- The segments of a word, in drawing order, or the index of a closing bracket without an opening
    one. -/
def trace (symbols : List Char) (pace : Pace) (initialAngle : Float) :
    Except Nat (List Segment) :=
  (fun w => w.drawn.reverse) <$> (Walk.start initialAngle).run pace 0 symbols

/-- The wording of a failed walk. -/
def traceMessage (index : Nat) : String :=
  s!"Unmatched ] bracket encountered at index {index}"

/-! ### Extent -/

/-- The extreme coordinates of a drawing. -/
structure Bounds where
  low : Point
  high : Point

namespace Bounds

/-- The bounds with one more point. -/
def add (b : Bounds) (p : Point) : Bounds :=
  ⟨⟨Number.smaller b.low.x p.x, Number.smaller b.low.y p.y⟩,
    ⟨Number.larger b.high.x p.x, Number.larger b.high.y p.y⟩⟩

/-- The bounds of a drawing, which hold the origin. -/
def ofSegments (segments : List Segment) : Bounds :=
  segments.foldl (fun b s => (b.add s.start).add s.finish) ⟨⟨0, 0⟩, ⟨0, 0⟩⟩

/-- The middle. -/
def center (b : Bounds) : Point := ⟨(b.low.x + b.high.x) / 2, (b.low.y + b.high.y) / 2⟩

/-- The scale at which a side of a given length fills a side of the canvas; a side without length
    fits at any scale. -/
def sideScale (canvas : Nat) (length : Float) : Float :=
  if 0 < length then Float.ofNat canvas / length else 1.0 / 0.0

/-- The scale at which the bounds fill a share of the canvas. -/
def fit (b : Bounds) (canvas : Nat × Nat) (share : Float) : Float :=
  let scale := Number.smaller (sideScale canvas.1 (b.high.x - b.low.x))
    (sideScale canvas.2 (b.high.y - b.low.y))
  if scale.isFinite then scale * share else 1

end Bounds

end Questionnaire.Lindenmayer
