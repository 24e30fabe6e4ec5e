import Questionnaire.Lindenmayer.Drawing
import Questionnaire.Proofs.Lindenmayer.Grammar

namespace Questionnaire.Lindenmayer

/-!
# What a drawing is made of

Settings describe a grammar and a pace.  The word that the grammar has after so many rounds is walked
at that pace, and the segments of the walk are the drawing.

* `IsStride` — how far a step goes.
* `Derives` — the segments that settings have drawn.
* `Drawing.IsPlaced` — the scale of a drawing, and the point that lies in the middle of the canvas.
* `Drawing.ofSettings_cases` — a drawing is made of just these parts.
-/

/-! ### Specification -/

/-- The length of a step.  With a factor, it has been multiplied by the factor once for each round,
    where the rounds count as a signed number of 32 bits.  Neither length nor factor is zero. -/
def IsStride (s : Settings) (stride : Float) : Prop :=
  (s.stepLength == 0) = false ∧ match s.compression with
    | .auto => stride = s.stepLength
    | .factor f =>
      (f == 0) = false ∧ stride = s.stepLength * Number.power f (Int32.ofNat s.depth).toInt

/-- What settings have the turtle draw: at its pace, the segments of the word that their grammar has
    after so many rounds, none of which has given a word beyond their limit. -/
structure Derives (s : Settings) (g : Grammar) (pace : Pace) (segments : List Segment) : Prop where
  grammar : Grammar.read s.start s.rules = .ok g
  expansion : g.expand s.depth s.maxSymbols = .ok (g.word s.depth)
  within : 0 < s.depth → (String.ofList (g.word s.depth)).utf8ByteSize ≤ s.maxSymbols
  forward : pace.forward = s.forward
  angle : pace.angle = s.angle
  stride : IsStride s pace.stride
  trace : trace (g.word s.depth) pace s.initialAngle = .ok segments

/-- The scale at which a side fills a side of the canvas, if it has a length. -/
def Bounds.FillsAt (canvas : Nat) (length scale : Float) : Prop :=
  if 0 < length then scale = Float.ofNat canvas / length else scale = 1.0 / 0.0

/-- Where a drawing lies: its middle in the middle of the canvas, at nine tenths of the scale at which
    it fills one of the sides; or, if the steps shrink by a factor, its origin there and no scale. -/
def Drawing.IsPlaced (s : Settings) (b : Bounds) (scale : Float) (center : Point) : Prop :=
  match s.compression with
  | .factor _ => scale = 1 ∧ center = ⟨0, 0⟩
  | .auto => center = ⟨(b.low.x + b.high.x) / 2, (b.low.y + b.high.y) / 2⟩
    ∧ ∃ wide high, Bounds.FillsAt s.canvas.1 (b.high.x - b.low.x) wide
      ∧ Bounds.FillsAt s.canvas.2 (b.high.y - b.low.y) high
      ∧ scale = if (Number.smaller wide high).isFinite then Number.smaller wide high * 0.9 else 1

/-! ### The parts of a drawing -/

namespace Drawing

/-- The length of a step, where there is one. -/
theorem isStride_of_stride {s : Settings} {length : Float} (h : stride s = .ok length) :
    IsStride s length := by
  -- The checks come in the order of the source: the length first, and then the factor, if there is
  -- one.
  unfold stride at h
  unfold IsStride
  split at h
  · cases h
  · rename_i hlength
    refine ⟨by simpa using hlength, ?_⟩
    cases hcompression : s.compression with
    | auto =>
      rw [hcompression] at h
      exact (Except.ok.inj h).symm
    | factor f =>
      rw [hcompression] at h
      dsimp only at h ⊢
      split at h
      · cases h
      · rename_i hfactor
        exact ⟨by simpa using hfactor, (Except.ok.inj h).symm⟩

/-- The scale of a side fills it. -/
theorem fillsAt_sideScale (canvas : Nat) (length : Float) :
    Bounds.FillsAt canvas length (Bounds.sideScale canvas length) := by
  unfold Bounds.FillsAt Bounds.sideScale
  split <;> rfl

/-- The place that a drawing is given. -/
theorem isPlaced_placement (s : Settings) (b : Bounds) :
    IsPlaced s b (placement s b).1 (placement s b).2 := by
  unfold IsPlaced placement
  cases s.compression with
  | factor f => exact ⟨rfl, rfl⟩
  | auto => exact ⟨rfl, _, _, fillsAt_sideScale _ _, fillsAt_sideScale _ _, rfl⟩

/-- **Drawings.** A drawing is made of the segments that its settings have drawn, on the canvas and the
    background of the settings. -/
theorem ofSettings_cases {s : Settings} {chance : Nat → Rgb} {d : Drawing}
    (h : ofSettings s chance = .ok d) :
    ∃ g pace segments, Derives s g pace segments
      ∧ d = {
        symbols := (g.word s.depth).length
        strokes := colored s chance segments
        bounds := Bounds.ofSegments segments
        background := s.background
        canvas := s.canvas
        scale := (placement s (Bounds.ofSegments segments)).1
        center := (placement s (Bounds.ofSegments segments)).2 } := by
  -- Each stage of the drawing has succeeded, so it can be read off.
  obtain ⟨length, hlength, h⟩ := Except.bind_eq_ok.mp h
  obtain ⟨g, hg, h⟩ := Except.bind_eq_ok.mp h
  obtain ⟨word, hword, h⟩ := Except.bind_eq_ok.mp h
  obtain ⟨segments, hsegments, h⟩ := Except.bind_eq_ok.mp h
  rw [Except.mapError_eq_ok] at hg hword hsegments
  obtain rfl := Grammar.expand_eq_ok hword
  cases h
  refine ⟨g, ⟨s.forward, s.angle, length⟩, segments,
    ⟨hg, hword, fun hdepth => ?_, rfl, rfl, isStride_of_stride hlength, hsegments⟩, rfl⟩
  obtain ⟨rounds, hrounds⟩ : ∃ rounds, s.depth = rounds + 1 := ⟨s.depth - 1, by omega⟩
  rw [hrounds] at hword ⊢
  rw [Grammar.utf8ByteSize_ofList]
  exact Grammar.byteSize_of_expandFrom hword

end Drawing

end Questionnaire.Lindenmayer
