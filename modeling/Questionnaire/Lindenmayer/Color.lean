import Questionnaire.Lindenmayer.Turtle

namespace Questionnaire.Lindenmayer

/-!
# Colors

- `Rgb`: a color.
- `ofHue`: the fully saturated color of a hue; `scattered`: colors that look random.
- `Coloring`: how strokes get their colors; `Coloring.ofName` reads the names that users enter.
-/

/-- The red, green and blue part of a color. -/
structure Rgb where
  red : Nat
  green : Nat
  blue : Nat
deriving Repr, DecidableEq

/-- A share of full brightness as a part of a color. -/
def channel (share : Float) : Nat := (Number.clampedInteger 0 255 (share * 255).round).toNat

/-- The fully saturated color of a hue in degrees. -/
def ofHue (hue : Float) : Rgb :=
  let sector := turned hue / 60
  let share := 1 - (Number.remainder sector 2 - 1).abs
  let full := channel 1
  let part := channel share
  let none := channel 0
  match (Number.clampedInteger 0 5 sector).toNat with
  | 0 => ⟨full, part, none⟩
  | 1 => ⟨part, full, none⟩
  | 2 => ⟨none, full, part⟩
  | 3 => ⟨none, part, full⟩
  | 4 => ⟨part, none, full⟩
  | _ => ⟨full, none, part⟩

/-- A color for an index, without a pattern that meets the eye. -/
def scattered (seed : UInt64) (index : Nat) : Rgb :=
  let z := seed + 0x9E3779B97F4A7C15 * UInt64.ofNat (index + 1)
  let z := (z ^^^ (z >>> 30)) * 0xBF58476D1CE4E5B9
  let z := (z ^^^ (z >>> 27)) * 0x94D049BB133111EB
  let z := (z ^^^ (z >>> 31)).toNat
  ⟨z % 256, z / 256 % 256, z / 65536 % 256⟩

/-- How strokes get their colors. -/
inductive Coloring where
  | fixed (color : Rgb)
  /-- The hue goes round once from the first stroke to the last. -/
  | rainbow
  | random
  /-- The hue is the heading of the turtle. -/
  | heading
deriving Repr, DecidableEq

namespace Coloring

/-- The names of the colorings that users enter. -/
def names : List String := ["rainbow", "random", "heading"]

/-- The coloring of a name. -/
def ofName? (name : String) : Option Coloring :=
  match name with
  | "rainbow" => some .rainbow
  | "random" => some .random
  | "heading" => some .heading
  | _ => none

/-- The message for a name that is none of a coloring. -/
def unknownMessage (name : String) : String := s!"Unknown color function '{name}'"

/-- The color of the stroke with a given index, of `total` strokes; `chance` gives the random
    colors. -/
def color (c : Coloring) (chance : Nat → Rgb) (segment : Segment) (index total : Nat) : Rgb :=
  match c with
  | .fixed rgb => rgb
  | .rainbow => ofHue (360 * Float.ofNat index / Float.ofNat (max total 1))
  | .random => chance index
  | .heading => ofHue segment.heading

end Coloring

end Questionnaire.Lindenmayer
