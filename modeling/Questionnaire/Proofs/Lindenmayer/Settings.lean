import Mathlib.Algebra.Group.Int.Defs
import Questionnaire.Lindenmayer.Target
import Questionnaire.Proofs.Lindenmayer.Derivation

namespace Questionnaire.Lindenmayer

/-!
# Settings and the arguments that they come from

Arguments have been checked against their declared types, and the settings of a drawing are read from
them with types of their own: a color has channels of a byte each, a canvas has sides of 32 bits, a
number is finite, and a limit is not negative.

* `IsComplete` — arguments for all the parameters of a drawing, each of its declared type.
* `natural?`, `color?`, `size?`, `finite?` — what the second reading makes of such values.
* `Reflects` — the settings that are taken over from the arguments as they are, or replaced where the
  second reading fails.
* `invoke_reflects` — what a drawing was made with.
-/

open Json (Decoder)

/-! ### Specification -/

/-- A value for each parameter of a drawing, of the type that the parameter declares. -/
def IsComplete (a : Arguments) : Prop :=
  ∀ p ∈ signature.params, ∃ v, a.get? p.name = some v ∧ p.type.accepts v = true

/-- An integer as a natural number of at most `bits` bits, if it is one. -/
def natural? (bits : Nat) (i : Int64) : Option Nat :=
  if 0 ≤ i.toInt ∧ i.toInt < 2 ^ bits then some i.toInt.toNat else none

/-- The color of three channels, if each is a byte. -/
def color? (red green blue : Int64) : Option Rgb := do
  return ⟨← natural? 8 red, ← natural? 8 green, ← natural? 8 blue⟩

/-- The canvas of two sides, if each has at most 32 bits. -/
def size? (width height : Int64) : Option (Nat × Nat) := do
  return (← natural? 32 width, ← natural? 32 height)

/-- A number, if it is finite. -/
def finite? : Value → Option Float
  | .int i => some (Value.widen i)
  | .float x => if x.isFinite then some x else none
  | _ => none

/-- What the settings of a drawing take from arguments.  Symbols and path are as given; of the others
    each is as given if it can be used, and replaced if not. -/
structure Reflects (a : Arguments) (s : Settings) : Prop where
  forward : ∃ symbols, a.get? "forward" = some (.str symbols) ∧ s.forward = symbols.toList
  output : a.get? "output" = some (s.output.elim .none .str)
  background : ∃ red green blue, a.get? "bg_color" = some (.seq [.int red, .int green, .int blue])
    ∧ s.background = (color? red green blue).getD ⟨0, 0, 0⟩
  canvas : ∃ width height, a.get? "canvas_size" = some (.seq [.int width, .int height])
    ∧ s.canvas = (size? width height).getD (800, 800)
  maxSymbols : ∃ limit, a.get? "_max_symbols" = some (.int limit)
    ∧ s.maxSymbols = (natural? 64 limit).getD 2000000
  stepLength : ∃ v, a.get? "step_length" = some v ∧ s.stepLength = (finite? v).getD 10
  initialAngle : ∃ v, a.get? "initial_angle" = some v ∧ s.initialAngle = (finite? v).getD 0

/-! ### Values of the declared types -/

/-- Only strings are accepted as strings. -/
theorem accepts_str {v : Value} (h : ValueType.str.accepts v = true) : ∃ s, v = .str s := by
  cases v with
  | str s => exact ⟨s, rfl⟩
  | none | bool | int | float | seq | function => simp [ValueType.accepts] at h

/-- Only integers are accepted as integers. -/
theorem accepts_int {v : Value} (h : ValueType.int.accepts v = true) : ∃ i, v = .int i := by
  cases v with
  | int i => exact ⟨i, rfl⟩
  | none | bool | str | float | seq | function => simp [ValueType.accepts] at h

/-- A string that may be missing is a string or nothing. -/
theorem accepts_optional_str {v : Value} (h : (ValueType.optional .str).accepts v = true) :
    ∃ output : Option String, v = output.elim .none .str := by
  cases v with
  | none => exact ⟨none, rfl⟩
  | str s => exact ⟨some s, rfl⟩
  | int | bool | float | seq | function => simp [ValueType.accepts] at h

/-- Integers and numbers are accepted as numbers. -/
theorem accepts_float {v : Value} (h : ValueType.float.accepts v = true) :
    (∃ i, v = .int i) ∨ ∃ x, v = .float x := by
  cases v with
  | int i => exact .inl ⟨i, rfl⟩
  | float x => exact .inr ⟨x, rfl⟩
  | none | bool | str | seq | function => simp [ValueType.accepts] at h

/-- Items that are accepted as a row of integers are integers. -/
theorem acceptsEach_ints {n : Nat} {items : List Value} (hlength : items.length = n)
    (h : ValueType.acceptsEach (List.replicate n .int) items = true) :
    ∃ is : List Int64, items = is.map .int := by
  induction n generalizing items with
  | zero => exact ⟨[], List.length_eq_zero_iff.mp hlength⟩
  | succ n ih =>
    cases items with
    | nil => cases hlength
    | cons v items =>
      rw [List.replicate_succ, ValueType.acceptsEach, Bool.and_eq_true] at h
      obtain ⟨i, rfl⟩ := accepts_int h.1
      obtain ⟨is, rfl⟩ := ih (by simpa using hlength) h.2
      exact ⟨i :: is, rfl⟩

/-- A tuple of integers has all of them. -/
theorem accepts_ints {n : Nat} {v : Value}
    (h : (ValueType.tuple (List.replicate n .int)).accepts v = true) :
    ∃ is : List Int64, is.length = n ∧ v = .seq (is.map .int) := by
  cases v with
  | seq items =>
    simp only [ValueType.accepts, ValueType.requiredCount, Bool.and_eq_true, decide_eq_true_eq,
      List.countP_replicate, List.length_replicate] at h
    obtain ⟨⟨hmost, hleast⟩, heach⟩ := h
    have hlength : items.length = n := Nat.le_antisymm hleast hmost
    obtain ⟨is, rfl⟩ := acceptsEach_ints hlength heach
    exact ⟨is, by simpa using hlength, rfl⟩
  | none | bool | int | float | str | function => simp [ValueType.accepts] at h

/-! ### The second reading -/

/-- The second reading falls back to a default where a value cannot be decoded. -/
theorem extractOr_of_get? {α : Type} {a : Arguments} {name : String} {v : Value}
    (h : a.get? name = some v) (decoder : Decoder α) (default : α) :
    a.extractOr decoder name default = (decoder v.toJson).toOption.getD default := by
  rw [Arguments.extractOr, Arguments.extract, h]
  dsimp only
  cases decoder v.toJson <;> rfl

/-- An integer is decoded as a natural number of so many bits, if it is one. -/
theorem natural_int (bits : Nat) (name : String) (i : Int64) :
    (Json.natural bits name (.int i)).toOption = natural? bits i := by
  have htwo : (Number.twoTo bits : Int) = 2 ^ bits := by
    rw [Number.twoTo]
    norm_cast
  rw [Json.natural, natural?, htwo]
  split <;> rfl

/-- A pair is decoded item by item. -/
theorem pairOf_array {α : Type} (item : Decoder α) (x y : Json) :
    Json.pairOf item (.array [x, y]) = (do
      let a ← item x
      let b ← item y
      return (a, b)) := by
  rw [Json.pairOf, Json.tupleOf, List.take_of_length_le (by simp), List.mapM_cons, List.mapM_cons]
  cases item x with
  | error _ => rfl
  | ok a => cases item y <;> rfl

/-- A triple is decoded item by item. -/
theorem tripleOf_array {α : Type} (item : Decoder α) (x y z : Json) :
    Json.tripleOf item (.array [x, y, z]) = (do
      let a ← item x
      let b ← item y
      let c ← item z
      return (a, b, c)) := by
  rw [Json.tripleOf, Json.tupleOf, List.take_of_length_le (by simp), List.mapM_cons,
    List.mapM_cons, List.mapM_cons]
  cases item x with
  | error _ => rfl
  | ok a => cases item y with
    | error _ => rfl
    | ok b => cases item z <;> rfl

/-- Three integers are decoded as a color, if each is a byte. -/
theorem rgb_array (red green blue : Int64) :
    (rgb (.array [.int red, .int green, .int blue])).toOption = color? red green blue := by
  rw [rgb, tripleOf_array, color?, ← natural_int 8 "u8", ← natural_int 8 "u8",
    ← natural_int 8 "u8"]
  cases Json.natural 8 "u8" (.int red) with
  | error _ => rfl
  | ok r => cases Json.natural 8 "u8" (.int green) with
    | error _ => rfl
    | ok g => cases Json.natural 8 "u8" (.int blue) <;> rfl

/-- Two integers are decoded as a canvas, if each has at most 32 bits. -/
theorem canvasSize_array (width height : Int64) :
    (canvasSize (.array [.int width, .int height])).toOption = size? width height := by
  rw [canvasSize, pairOf_array, size?, ← natural_int 32 "u32", ← natural_int 32 "u32"]
  cases Json.natural 32 "u32" (.int width) with
  | error _ => rfl
  | ok w => cases Json.natural 32 "u32" (.int height) <;> rfl

/-! ### Arguments of the declared types -/

section Given

variable {a : Arguments} (name : String)

/-- Each declared parameter has a value of its type. -/
theorem IsComplete.given (h : IsComplete a) {type : ValueType}
    (hdeclared : (name, type) ∈ signature.params.map fun p => (p.name, p.type)) :
    ∃ v, a.get? name = some v ∧ type.accepts v = true := by
  obtain ⟨p, hp, heq⟩ := List.mem_map.mp hdeclared
  obtain ⟨rfl, rfl⟩ := Prod.mk.inj heq
  exact h p hp

/-- A declared text is taken over as it is. -/
theorem IsComplete.extractOr_text (h : IsComplete a)
    (hdeclared : (name, .str) ∈ signature.params.map fun p => (p.name, p.type)) :
    ∃ s, a.get? name = some (.str s) ∧ ∀ default, a.extractOr Json.text name default = s := by
  obtain ⟨v, hv, hstr⟩ := h.given name hdeclared
  obtain ⟨s, rfl⟩ := accepts_str hstr
  exact ⟨s, hv, fun _ => extractOr_of_get? hv _ _⟩

/-- A path is taken over as it is, and so is its absence. -/
theorem IsComplete.extractOr_path (h : IsComplete a)
    (hdeclared : (name, .optional .str) ∈ signature.params.map fun p => (p.name, p.type)) :
    ∃ path : Option String, a.get? name = some (path.elim .none .str)
      ∧ ∀ default, a.extractOr (Json.nullable Json.text) name default = path := by
  obtain ⟨v, hv, hoptional⟩ := h.given name hdeclared
  obtain ⟨path, rfl⟩ := accepts_optional_str hoptional
  refine ⟨path, hv, fun _ => ?_⟩
  rw [extractOr_of_get? hv]
  cases path <;> rfl

/-- Of three integers the color that they make is taken, or else the default. -/
theorem IsComplete.extractOr_color (h : IsComplete a)
    (hdeclared : (name, .tuple [.int, .int, .int])
      ∈ signature.params.map fun p => (p.name, p.type)) :
    ∃ red green blue, a.get? name = some (.seq [.int red, .int green, .int blue])
      ∧ ∀ default, a.extractOr rgb name default = (color? red green blue).getD default := by
  obtain ⟨v, hv, htuple⟩ := h.given name hdeclared
  obtain ⟨is, his, rfl⟩ := accepts_ints (n := 3) htuple
  obtain ⟨red, green, blue, rfl⟩ := List.length_eq_three.mp his
  refine ⟨red, green, blue, hv, fun default => ?_⟩
  rw [extractOr_of_get? hv, ← rgb_array]
  rfl

/-- Of two integers the canvas that they make is taken, or else the default. -/
theorem IsComplete.extractOr_size (h : IsComplete a)
    (hdeclared : (name, .tuple [.int, .int]) ∈ signature.params.map fun p => (p.name, p.type)) :
    ∃ width height, a.get? name = some (.seq [.int width, .int height])
      ∧ ∀ default, a.extractOr canvasSize name default = (size? width height).getD default := by
  obtain ⟨v, hv, htuple⟩ := h.given name hdeclared
  obtain ⟨is, his, rfl⟩ := accepts_ints (n := 2) htuple
  obtain ⟨width, height, rfl⟩ := List.length_eq_two.mp his
  refine ⟨width, height, hv, fun default => ?_⟩
  rw [extractOr_of_get? hv, ← canvasSize_array]
  rfl

/-- Of an integer the natural number that it is gets taken, or else the default. -/
theorem IsComplete.extractOr_natural (h : IsComplete a)
    (hdeclared : (name, .int) ∈ signature.params.map fun p => (p.name, p.type)) :
    ∃ i, a.get? name = some (.int i) ∧ ∀ bits range default,
      a.extractOr (Json.natural bits range) name default = (natural? bits i).getD default := by
  obtain ⟨v, hv, hint⟩ := h.given name hdeclared
  obtain ⟨i, rfl⟩ := accepts_int hint
  refine ⟨i, hv, fun bits range default => ?_⟩
  rw [extractOr_of_get? hv, ← natural_int bits range]
  rfl

/-- A finite number is taken over, and any other one replaced by the default. -/
theorem IsComplete.extractOr_float (h : IsComplete a)
    (hdeclared : (name, .float) ∈ signature.params.map fun p => (p.name, p.type)) :
    ∃ v, a.get? name = some v
      ∧ ∀ default, a.extractOr Json.float64 name default = (finite? v).getD default := by
  obtain ⟨v, hv, hfloat⟩ := h.given name hdeclared
  refine ⟨v, hv, fun default => ?_⟩
  rw [extractOr_of_get? hv]
  obtain ⟨i, rfl⟩ | ⟨x, rfl⟩ := accepts_float hfloat
  · rfl
  · rw [Value.toJson, Json.ofFloat, finite?]
    split <;> rfl

end Given

/-! ### What a drawing is made with -/

/-- The symbols that draw are the characters of a text. -/
theorem readForward_eq_ok {a : Arguments} {symbols : List Char} (h : readForward a = .ok symbols) :
    symbols = (a.extractOr Json.text "forward" "F").toList := by
  unfold readForward at h
  dsimp only at h
  split at h
  · cases h
  · exact (Except.ok.inj h).symm

/-- The settings of arguments.  Seven of them fail with the whole; the others take their default
    where they cannot be read. -/
theorem ofArguments_cases {a : Arguments} {s : Settings} (h : Settings.ofArguments a = .ok s) :
    ∃ start rules depth angle compression coloring, s = {
      start, rules, depth, angle, compression, coloring
      forward := (a.extractOr Json.text "forward" "F").toList
      stepLength := a.extractOr Json.float64 "step_length" 10
      initialAngle := a.extractOr Json.float64 "initial_angle" 0
      background := a.extractOr rgb "bg_color" ⟨0, 0, 0⟩
      canvas := a.extractOr canvasSize "canvas_size" (800, 800)
      output := a.extractOr (Json.nullable Json.text) "output" none
      maxSymbols := a.extractOr (Json.natural 64 "usize") "_max_symbols" 2000000 } := by
  obtain ⟨compression, -, h⟩ := Except.bind_eq_ok.mp h
  obtain ⟨coloring, -, h⟩ := Except.bind_eq_ok.mp h
  obtain ⟨forward, hforward, h⟩ := Except.bind_eq_ok.mp h
  obtain ⟨start, -, h⟩ := Except.bind_eq_ok.mp h
  obtain ⟨rules, -, h⟩ := Except.bind_eq_ok.mp h
  obtain ⟨depth, -, h⟩ := Except.bind_eq_ok.mp h
  obtain ⟨angle, -, h⟩ := Except.bind_eq_ok.mp h
  obtain rfl := readForward_eq_ok hforward
  exact ⟨start, rules, depth, angle, compression, coloring, (Except.ok.inj h).symm⟩

/-- What is read from arguments of the declared types. -/
theorem ofArguments_reflects {a : Arguments} {s : Settings} (h : IsComplete a)
    (hsettings : Settings.ofArguments a = .ok s) : Reflects a s := by
  obtain ⟨start, rules, depth, angle, compression, coloring, rfl⟩ := ofArguments_cases hsettings
  -- Each of the others is taken over, since its argument has the declared type.
  obtain ⟨symbols, hsymbols, hread⟩ := h.extractOr_text "forward"
    (by simp [signature, parameter])
  obtain ⟨path, hpath, hwrite⟩ := h.extractOr_path "output"
    (by simp [signature, parameter])
  obtain ⟨red, green, blue, hcolor, hpaint⟩ := h.extractOr_color "bg_color"
    (by simp [signature, parameter])
  obtain ⟨width, height, hsize, hspan⟩ := h.extractOr_size "canvas_size"
    (by simp [signature, parameter])
  obtain ⟨limit, hlimit, hbound⟩ := h.extractOr_natural "_max_symbols"
    (by simp [signature, parameter])
  obtain ⟨length, hlength, hstep⟩ := h.extractOr_float "step_length"
    (by simp [signature, parameter])
  obtain ⟨heading, hheading, hturn⟩ := h.extractOr_float "initial_angle"
    (by simp [signature, parameter])
  exact {
    forward := ⟨symbols, hsymbols, congrArg String.toList (hread _)⟩
    output := by
      dsimp only
      rw [hwrite, hpath]
    background := ⟨red, green, blue, hcolor, hpaint _⟩
    canvas := ⟨width, height, hsize, hspan _⟩
    maxSymbols := ⟨limit, hlimit, hbound _ _ _⟩
    stepLength := ⟨length, hlength, hstep _⟩
    initialAngle := ⟨heading, hheading, hturn _⟩ }

/-- What is told of a drawing that has been made, and the files once it has been written to the path
    that its settings give. -/
def Delivers (s : Settings) (d : Drawing) (files : FileTree) (result : Json) (files' : FileTree) :
    Prop :=
  match s.output with
  | none => result = .object d.summary ∧ files' = files
  | some path => result = .object (d.summary ++ [("output", .str path)])
    ∧ files.write path d.svg.toUTF8 = .ok files'

/-- A drawing that is made comes from settings, and is delivered as these say. -/
theorem draw_eq_ok {chance : Nat → Rgb} {a : Arguments} {files files' : FileTree} {result : Json}
    (h : draw chance a files = .ok (result, files')) :
    ∃ s d, Settings.ofArguments a = .ok s ∧ Drawing.ofSettings s chance = .ok d
      ∧ Delivers s d files result files' := by
  obtain ⟨s, hs, h⟩ := Except.bind_eq_ok.mp h
  obtain ⟨d, hd, h⟩ := Except.bind_eq_ok.mp h
  refine ⟨s, d, hs, hd, ?_⟩
  -- Without an output nothing is written, and the files are those from before.
  unfold Delivers
  cases houtput : s.output with
  | none =>
    rw [houtput] at h
    cases h
    exact ⟨rfl, rfl⟩
  | some path =>
    rw [houtput] at h
    obtain ⟨written, hwritten, h⟩ := Except.bind_eq_ok.mp h
    cases h
    exact ⟨rfl, Except.mapError_eq_ok.mp hwritten⟩

/-- **Arguments of a drawing.** A drawing is made with the symbols and the path that it is given.  Its
    background, canvas, limit, step length and first heading are as given as long as they can be used;
    those that cannot are replaced, and the drawing is made all the same: its lines are the segments
    that the turtle draws with these settings. -/
theorem invoke_reflects {chance : Nat → Rgb} {a : Arguments} {files files' : FileTree}
    {result : Json} (hcomplete : IsComplete a)
    (hrun : (target chance).invoke a files = (.done result, files')) :
    ∃ s d g pace segments, Reflects a s ∧ Settings.ofArguments a = .ok s
      ∧ Drawing.ofSettings s chance = .ok d ∧ Derives s g pace segments
      ∧ d.strokes.map Prod.fst = segments ∧ d.background = s.background ∧ d.canvas = s.canvas
      ∧ Delivers s d files result files' := by
  have hdraw : draw chance a files = .ok (result, files') := by
    unfold target at hrun
    dsimp only at hrun
    split at hrun
    · cases hrun
      assumption
    · cases hrun
  obtain ⟨s, d, hs, hd, hdelivers⟩ := draw_eq_ok hdraw
  obtain ⟨g, pace, segments, hderives, hparts⟩ := Drawing.ofSettings_cases hd
  refine ⟨s, d, g, pace, segments, ofArguments_reflects hcomplete hs, hs, hd, hderives, ?_, ?_, ?_,
    hdelivers⟩
  · rw [hparts]
    simp [Drawing.colored, Function.comp_def]
  · rw [hparts]
  · rw [hparts]

/-- Arguments for all parameters, with three integers for the background; no symbol draws. -/
def paintedOn (red green blue : Int64) : Arguments :=
  ⟨[("axiom", .str "F"), ("rules", .str "F -> F"), ("depth", .int 1), ("angle", .int 90),
    ("forward", .str "G"), ("step_length", .float 10), ("initial_angle", .float 0),
    ("compression_factor", .str "auto"), ("fg_color", .seq [.int 255, .int 255, .int 255]),
    ("bg_color", .seq [.int red, .int green, .int blue]),
    ("canvas_size", .seq [.int 800, .int 800]), ("output", .none),
    ("_max_symbols", .int 2000000)]⟩

/-- The arguments with three integers for the background are complete. -/
theorem isComplete_paintedOn (red green blue : Int64) : IsComplete (paintedOn red green blue) := by
  have hdepth : (ValueType.ranged .int (some 1) none).accepts (.int 1) = true := by decide
  have hcompression :
      (ValueType.union [.literal [.str "auto"], .float]).accepts (.str "auto") = true := by decide
  simp only [IsComplete, signature, List.forall_mem_cons, List.not_mem_nil, false_imp_iff,
    implies_true, and_true, parameter]
  exact ⟨⟨_, rfl, rfl⟩, ⟨_, rfl, rfl⟩, ⟨_, rfl, hdepth⟩, ⟨_, rfl, rfl⟩, ⟨_, rfl, rfl⟩,
    ⟨_, rfl, rfl⟩, ⟨_, rfl, rfl⟩, ⟨_, rfl, hcompression⟩, ⟨_, rfl, rfl⟩, ⟨_, rfl, rfl⟩,
    ⟨_, rfl, rfl⟩, ⟨_, rfl, rfl⟩, ⟨_, rfl, rfl⟩⟩

/-- A background that is used as it is given. -/
theorem invoke_reflects_background :
    IsComplete (paintedOn 30 60 90) ∧ ∃ result s d,
      (target fun _ => ⟨0, 0, 0⟩).invoke (paintedOn 30 60 90) .empty = (.done result, .empty)
        ∧ Settings.ofArguments (paintedOn 30 60 90) = .ok s
        ∧ Drawing.ofSettings s (fun _ => ⟨0, 0, 0⟩) = .ok d ∧ d.background = ⟨30, 60, 90⟩ := by
  have hcomplete := isComplete_paintedOn 30 60 90
  have hrun : ∃ result, (target fun _ => ⟨0, 0, 0⟩).invoke (paintedOn 30 60 90) .empty
      = (.done result, .empty) := ⟨_, rfl⟩
  obtain ⟨result, hrun⟩ := hrun
  obtain ⟨s, d, g, pace, segments, hreflects, hs, hd, -, -, hbackground, -, -⟩ :=
    invoke_reflects hcomplete hrun
  obtain ⟨red, green, blue, hgiven, hpaint⟩ := hreflects.background
  cases hgiven
  exact ⟨hcomplete, result, s, d, hrun, hs, hd, hbackground.trans hpaint⟩

/-- A channel that is no byte is of the declared type, and the drawing is made on black. -/
theorem invoke_replaces_background :
    IsComplete (paintedOn 300 0 0) ∧ ∃ result s d,
      (target fun _ => ⟨0, 0, 0⟩).invoke (paintedOn 300 0 0) .empty = (.done result, .empty)
        ∧ Settings.ofArguments (paintedOn 300 0 0) = .ok s
        ∧ Drawing.ofSettings s (fun _ => ⟨0, 0, 0⟩) = .ok d ∧ d.background = ⟨0, 0, 0⟩ :=
  ⟨isComplete_paintedOn 300 0 0, _, _, _, rfl, rfl, rfl, rfl⟩

end Questionnaire.Lindenmayer
