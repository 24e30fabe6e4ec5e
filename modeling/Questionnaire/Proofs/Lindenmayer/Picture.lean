import Questionnaire.Proofs.FileTree.Frame
import Questionnaire.Proofs.Lindenmayer.Segments
import Questionnaire.Proofs.Lindenmayer.Settings
import Questionnaire.Proofs.Number.Hundredths
import Questionnaire.Proofs.Text.Markup
import Questionnaire.Proofs.Value.Json

namespace Questionnaire.Lindenmayer

/-!
# Pictures

The picture of a drawing is read as markup, and holds one line for each segment that the word of the
grammar draws.

* `Drawing.Shows` — a text is a picture of segments, told without the program that writes it.
* `Summarizes` — what is told of a drawing.
* `Drawing.tags_svg` — the tags of the picture of a drawing.
* `invoke_pictures` — what is told and written when arguments are drawn, and that nothing else is
  written.
-/

open Markup (IsName IsValue Tag tags)
open Number (InHundredths)

/-! ### Specification -/

/-- The color of a segment with a given index, of `total` segments: a fixed one, the hue that goes
    round once from the first segment to the last, the one that chance has for the index, or the hue
    of the heading. -/
def Coloring.Gives (c : Coloring) (chance : Nat → Rgb) (segment : Segment) (index total : Nat)
    (color : Rgb) : Prop :=
  match c with
  | .fixed rgb => color = rgb
  | .rainbow => color = ofHue (360 * Float.ofNat index / Float.ofNat (max total 1))
  | .random => color = chance index
  | .heading => color = ofHue segment.heading

/-- How a color is written in a picture. -/
def Rgb.written (c : Rgb) : String :=
  "rgb(" ++ toString c.red ++ "," ++ toString c.green ++ "," ++ toString c.blue ++ ")"

namespace Drawing

/-- The tag that opens a picture of a given size. -/
def canvasTag (width height : Nat) : Tag where
  kind := .opens
  name := "svg"
  attributes := [("xmlns", "http://www.w3.org/2000/svg"), ("width", toString width),
    ("height", toString height), ("viewBox", "0 0 " ++ toString width ++ " " ++ toString height)]

/-- The background of a picture. -/
def groundTag (color : Rgb) : Tag where
  kind := .whole
  name := "rect"
  attributes := [("width", "100%"), ("height", "100%"), ("fill", color.written)]

/-- A line from one point to another, in a color. -/
def lineTag (x1 y1 x2 y2 : String) (color : Rgb) : Tag where
  kind := .whole
  name := "line"
  attributes := [("x1", x1), ("y1", y1), ("x2", x2), ("y2", y2), ("stroke", color.written)]

/-- The tag that closes a picture. -/
def closingTag : Tag := ⟨.closes, "svg", []⟩

/-- Two texts are the coordinates of a point on a canvas.  They are counted from the upper left
    corner, in two decimals, and `center` lies in the middle. -/
structure Locates (canvas : Nat × Nat) (scale : Float) (center p : Point) (x y : String) : Prop where
  across : InHundredths (Float.ofNat canvas.1 / 2 + (p.x - center.x) * scale) x
  down : InHundredths (Float.ofNat canvas.2 / 2 - (p.y - center.y) * scale) y

/-- A tag is the line of a segment on a canvas: it leads from where the segment starts to where it
    ends. -/
def IsLineOf (canvas : Nat × Nat) (scale : Float) (center : Point) (segment : Segment) (color : Rgb)
    (tag : Tag) : Prop :=
  ∃ x1 y1 x2 y2, tag = lineTag x1 y1 x2 y2 color
    ∧ Locates canvas scale center segment.start x1 y1
    ∧ Locates canvas scale center segment.finish x2 y2

/-- A text is a picture of segments: inside one element there is a background and then a line for
    each segment, in their order and each in its color. -/
def Shows (s : Settings) (chance : Nat → Rgb) (segments : List Segment) (text : String) : Prop :=
  ∃ scale center lines, IsPlaced s (Bounds.ofSegments segments) scale center
    ∧ tags text = canvasTag s.canvas.1 s.canvas.2 :: groundTag s.background
      :: lines ++ [closingTag]
    ∧ lines.length = segments.length
    ∧ ∀ i (hline : i < lines.length) (hsegment : i < segments.length),
      ∃ color, s.coloring.Gives chance segments[i] i segments.length color
        ∧ IsLineOf s.canvas scale center segments[i] color lines[i]

end Drawing

/-- A result tells a count under a name, exactly if it is in the range of an integer. -/
def Tells (result : Json) (name : String) (count : Nat) : Prop :=
  ∃ i, result.field? name = some (.int i) ∧ (count < 2 ^ 63 → i.toInt = count)

/-- What is told of the drawing of a word: its length, which is within the limit if there has been a
    round of derivation, and the number of its symbols that draw. -/
structure Summarizes (s : Settings) (word : List Char) (pace : Pace) (result : Json) : Prop where
  symbols : Tells result "symbols" word.length
  segments : Tells result "segments" (word.countP pace.draws)
  limit : s.maxSymbols < 2 ^ 63
  within : 0 < s.depth → word.length ≤ s.maxSymbols

/-! ### Values -/

/-- A numeral may stand in an attribute. -/
theorem isValue_of_isNumeral {value : String} (h : ∀ c ∈ value.toList, Number.IsNumeral c) :
    IsValue value := by
  have hmarks : ∀ mark ∈ ['<', '>', '"'], ¬ Number.IsNumeral mark :=
    List.all_iff_forall_prop.mp (by decide)
  exact fun c hc hmark => hmarks c hmark (h c hc)

/-- The digits of a number mark nothing. -/
theorem isValue_nat (n : Nat) : IsValue (toString n) := by
  apply isValue_of_isNumeral
  intro c hc
  rw [Nat.toString_eq_repr, Nat.toList_repr] at hc
  exact .inl (Nat.isDigit_of_mem_toDigits (by decide) (by decide) hc)

/-- Nor does a coordinate, also where it is no finite number. -/
theorem isValue_coordinate (x : Float) : IsValue (Drawing.coordinate x) := by
  by_cases hfinite : x.isFinite = true
  · apply isValue_of_isNumeral
    rw [Drawing.coordinate, String.toList_ofList]
    exact Number.isNumeral_fixed 2 hfinite
  · rw [Drawing.coordinate, Number.fixed, if_pos (by simpa using hfinite), Number.special]
    repeat' split
    all_goals decide

/-- A color may stand in an attribute. -/
theorem isValue_written (c : Rgb) : IsValue c.written := by
  have hopen : IsValue "rgb(" := by decide
  have hcomma : IsValue "," := by decide
  exact ((((((hopen.append (isValue_nat c.red)).append hcomma).append (isValue_nat c.green)).append
    hcomma).append (isValue_nat c.blue)).append (by decide : IsValue ")"))

namespace Drawing

/-! ### Tags of a picture -/

/-- The tag of the canvas can be read. -/
theorem isReadable_canvasTag (width height : Nat) : (canvasTag width height).IsReadable := by
  have hcorner : IsValue "0 0 " := by decide
  have hblank : IsValue " " := by decide
  refine ⟨(by decide : "svg" ≠ ""), (by decide : IsName "svg"), ?_⟩
  simp only [canvasTag, List.forall_mem_cons, List.not_mem_nil, false_imp_iff, implies_true,
    and_true]
  exact ⟨⟨by decide, by decide⟩, ⟨by decide, isValue_nat _⟩, ⟨by decide, isValue_nat _⟩, by decide,
    ((hcorner.append (isValue_nat _)).append hblank).append (isValue_nat _)⟩

/-- The tag of the ground can be read. -/
theorem isReadable_groundTag (color : Rgb) : (groundTag color).IsReadable := by
  refine ⟨(by decide : "rect" ≠ ""), (by decide : IsName "rect"), ?_⟩
  simp only [groundTag, List.forall_mem_cons, List.not_mem_nil, false_imp_iff, implies_true,
    and_true]
  exact ⟨⟨by decide, by decide⟩, ⟨by decide, by decide⟩, by decide, isValue_written _⟩

/-- The line that is drawn for a stroke. -/
def strokeTag (d : Drawing) (segment : Segment) (color : Rgb) : Tag :=
  lineTag (coordinate (d.project segment.start).x) (coordinate (d.project segment.start).y)
    (coordinate (d.project segment.finish).x) (coordinate (d.project segment.finish).y) color

/-- The tag of a line can be read. -/
theorem isReadable_strokeTag (d : Drawing) (segment : Segment) (color : Rgb) :
    (d.strokeTag segment color).IsReadable := by
  refine ⟨(by decide : "line" ≠ ""), (by decide : IsName "line"), ?_⟩
  simp only [strokeTag, lineTag, List.forall_mem_cons, List.not_mem_nil, false_imp_iff,
    implies_true, and_true]
  exact ⟨⟨by decide, isValue_coordinate _⟩, ⟨by decide, isValue_coordinate _⟩,
    ⟨by decide, isValue_coordinate _⟩, ⟨by decide, isValue_coordinate _⟩, by decide,
    isValue_written _⟩

/-- The closing tag can be read. -/
theorem isReadable_closingTag : closingTag.IsReadable := ⟨by decide, by decide, nofun⟩

/-- A string is put into a text as it is. -/
theorem toString_text (s : String) : toString s = s := rfl

/-- A color is painted as it is written. -/
theorem paint_eq_written (c : Rgb) : paint c = c.written := rfl

/-- What stands before the strokes are two tags on a line each. -/
theorem toList_opening (d : Drawing) :
    d.opening.toList = (canvasTag d.canvas.1 d.canvas.2).line ++ (groundTag d.background).line := by
  unfold opening
  simp only [toString_text, paint_eq_written, canvasTag, groundTag, Tag.line, Tag.inside,
    Markup.TagKind.lead, Markup.TagKind.trail, Markup.attributeText, String.toList_append,
    String.reduceToList, List.cons_append, List.append_assoc, List.nil_append, List.flatMap_cons,
    List.flatMap_nil, List.append_nil]

/-- A stroke is one tag on a line. -/
theorem toList_lineElement (d : Drawing) (segment : Segment) (color : Rgb) :
    (d.lineElement segment color).toList = (d.strokeTag segment color).line := by
  unfold lineElement
  simp only [toString_text, paint_eq_written, strokeTag, lineTag, Tag.line, Tag.inside,
    Markup.TagKind.lead, Markup.TagKind.trail, Markup.attributeText, String.toList_append,
    String.reduceToList, List.cons_append, List.append_assoc, List.nil_append, List.flatMap_cons,
    List.flatMap_nil, List.append_nil]

/-- The tags of the picture of a drawing. -/
theorem tags_svg (d : Drawing) :
    tags d.svg = canvasTag d.canvas.1 d.canvas.2 :: groundTag d.background
      :: d.strokes.map (fun (segment, color) => d.strokeTag segment color) ++ [closingTag] := by
  apply Markup.tags_lines
  · simp only [List.cons_append, List.forall_mem_cons, List.forall_mem_append, List.forall_mem_map]
    exact ⟨isReadable_canvasTag _ _, isReadable_groundTag _,
      fun stroke _ => d.isReadable_strokeTag stroke.1 stroke.2, isReadable_closingTag, nofun⟩
  · have hclosing : "</svg>\n".toList = closingTag.line := by decide
    rw [svg, String.toList_append, String.toList_append, toList_opening, String.toList_join,
      hclosing, List.flatMap_map]
    simp only [toList_lineElement, List.cons_append, List.flatMap_cons, List.flatMap_append,
      List.flatMap_map, List.flatMap_nil, List.append_nil, List.append_assoc]

/-- A stroke is drawn as the line of its segment. -/
theorem isLineOf_strokeTag (d : Drawing) (segment : Segment) (color : Rgb) :
    IsLineOf d.canvas d.scale d.center segment color (d.strokeTag segment color) :=
  ⟨_, _, _, _, rfl, ⟨Number.inHundredths_iff.mpr rfl, Number.inHundredths_iff.mpr rfl⟩,
    ⟨Number.inHundredths_iff.mpr rfl, Number.inHundredths_iff.mpr rfl⟩⟩

/-- The color that a coloring has for a segment. -/
theorem gives_color (c : Coloring) (chance : Nat → Rgb) (segment : Segment) (index total : Nat) :
    c.Gives chance segment index total (c.color chance segment index total) := by
  cases c <;> rfl

/-- The picture of a drawing shows the segments that it is made of. -/
theorem shows_svg {s : Settings} {chance : Nat → Rgb} {segments : List Segment} {d : Drawing}
    (hstrokes : d.strokes = colored s chance segments) (hground : d.background = s.background)
    (hcanvas : d.canvas = s.canvas)
    (hplaced : IsPlaced s (Bounds.ofSegments segments) d.scale d.center) :
    Shows s chance segments d.svg := by
  -- Each segment has the color of its index.
  have hlines : d.strokes.map (fun (segment, color) => d.strokeTag segment color)
      = segments.mapIdx fun i segment =>
        d.strokeTag segment (s.coloring.color chance segment i segments.length) := by
    rw [hstrokes, colored, List.map_map, List.mapIdx_eq_zipIdx_map]
    rfl
  refine ⟨d.scale, d.center,
    segments.mapIdx fun i segment =>
      d.strokeTag segment (s.coloring.color chance segment i segments.length),
    hplaced, ?_, List.length_mapIdx, fun i hline hsegment => ?_⟩
  · rw [tags_svg, hlines, hcanvas, hground]
  · rw [List.getElem_mapIdx, ← hcanvas]
    exact ⟨_, gives_color _ _ _ _ _, d.isLineOf_strokeTag _ _⟩

end Drawing

/-! ### Counts -/

/-- A natural number that is decoded from a value is not too large for an integer. -/
theorem natural_lt {bits : Nat} {name : String} {v : Value} {n : Nat}
    (h : Json.natural bits name v.toJson = .ok n) : n < 2 ^ 63 := by
  unfold Json.natural at h
  split at h
  · rename_i i _
    split at h
    · obtain rfl := Except.ok.inj h
      have hlt := i.toInt_lt
      omega
    · cases h
  · next large hlarge => exact absurd hlarge (v.toJson_ne_large large)
  · cases h

/-- A natural number that is taken from arguments fits an integer, if the default does. -/
theorem extractOr_natural_lt (a : Arguments) (bits : Nat) (range name : String) {default : Nat}
    (hdefault : default < 2 ^ 63) :
    a.extractOr (Json.natural bits range) name default < 2 ^ 63 := by
  unfold Arguments.extractOr
  split
  · rename_i n hn
    unfold Arguments.extract at hn
    split at hn
    · cases hn
    · exact natural_lt (Except.mapError_eq_ok.mp hn)
  · exact hdefault

/-- The limit of symbols fits an integer. -/
theorem maxSymbols_lt {a : Arguments} {s : Settings} (h : Settings.ofArguments a = .ok s) :
    s.maxSymbols < 2 ^ 63 := by
  obtain ⟨_, _, _, _, _, _, rfl⟩ := ofArguments_cases h
  exact extractOr_natural_lt a 64 "usize" "_max_symbols" (by decide)

/-- A summary tells a number that stands in it. -/
theorem tells_of_lookup {fields : List (String × Json)} {name : String} {count : Nat}
    (h : fields.lookup name = some (.int (Int64.ofNat count))) :
    Tells (.object fields) name count :=
  ⟨_, h, Int64.toInt_ofNat_of_lt⟩

/-- What is told of a drawing, whatever is told behind it. -/
theorem summarizes_summary {s : Settings} {g : Grammar} {pace : Pace} {segments : List Segment}
    {chance : Nat → Rgb} {d : Drawing} (hderives : Derives s g pace segments)
    (hsymbols : d.symbols = (g.word s.depth).length)
    (hstrokes : d.strokes = Drawing.colored s chance segments) (hlimit : s.maxSymbols < 2 ^ 63)
    (more : List (String × Json)) :
    Summarizes s (g.word s.depth) pace (.object (d.summary ++ more)) where
  -- The summary has the symbols and segments first, and what is added comes after them.
  symbols := by
    rw [← hsymbols]
    exact tells_of_lookup rfl
  segments := by
    have hlength : (g.word s.depth).countP pace.draws = d.strokes.length := by
      rw [hstrokes, ← trace_length hderives.trace]
      simp [Drawing.colored]
    rw [hlength]
    exact tells_of_lookup rfl
  limit := hlimit
  within hdepth := by
    have hbytes := hderives.within hdepth
    rw [Grammar.utf8ByteSize_ofList] at hbytes
    exact Nat.le_trans (Grammar.length_le_byteSize _) hbytes

/-! ### Runs -/

/-- A call delivers a drawing, or fails with an error of drawing and leaves the files. -/
theorem invoke_cases (chance : Nat → Rgb) (a : Arguments) (files : FileTree) :
    (∃ result files', draw chance a files = .ok (result, files')
        ∧ (target chance).invoke a files = (.done result, files'))
      ∨ ∃ e : DrawError, (target chance).invoke a files = (.failed e.chain, files) := by
  unfold target
  dsimp only
  cases draw chance a files with
  | ok done => exact .inl ⟨done.1, done.2, rfl, rfl⟩
  | error e => exact .inr ⟨e, rfl⟩

/-- **Pictures.** When arguments have been drawn, what is told is the length of the word that their
    grammar has after so many rounds, which is within the limit, and the number of its symbols that
    draw.  If a path is given, the file there is the only one that is written, and its text is a
    picture with one line for each of these symbols.  Without a path, and without success, nothing is
    written. -/
theorem invoke_pictures (chance : Nat → Rgb) (a : Arguments) (files : FileTree) :
    (∀ result files', (target chance).invoke a files = (.done result, files') →
      ∃ s g pace segments, Settings.ofArguments a = .ok s ∧ Derives s g pace segments
        ∧ Summarizes s (g.word s.depth) pace result
        ∧ segments.length = (g.word s.depth).countP pace.draws
        ∧ match s.output with
          | none => files' = files
          | some path =>
            ∃ text, files.Writes path text files' ∧ Drawing.Shows s chance segments text)
      ∧ ∀ outcome files', (target chance).invoke a files = (outcome, files') →
        (∀ result, outcome ≠ .done result) → files' = files := by
  rcases invoke_cases chance a files with ⟨done, written, hdraw, hinvoke⟩ | ⟨e, hinvoke⟩
  · rw [hinvoke]
    constructor
    -- A result is the summary of a drawing, and the file, if there is one, shows that drawing.
    · rintro result files' ⟨⟩
      obtain ⟨s, d, hs, hd, hdelivers⟩ := draw_eq_ok hdraw
      obtain ⟨g, pace, segments, hderives, hparts⟩ := Drawing.ofSettings_cases hd
      have hsummary := summarizes_summary hderives (d := d) (by rw [hparts]) (by rw [hparts])
        (maxSymbols_lt hs)
      have hlength := trace_length hderives.trace
      unfold Delivers at hdelivers
      cases houtput : s.output with
      | none =>
        rw [houtput] at hdelivers
        obtain ⟨rfl, rfl⟩ := hdelivers
        refine ⟨s, g, pace, segments, hs, hderives, ?_, hlength, ?_⟩
        · simpa using hsummary []
        · rw [houtput]
      | some path =>
        rw [houtput] at hdelivers
        obtain ⟨rfl, hwrite⟩ := hdelivers
        refine ⟨s, g, pace, segments, hs, hderives, hsummary _, hlength, ?_⟩
        rw [houtput]
        refine ⟨d.svg, FileTree.writes_of_write hwrite, ?_⟩
        rw [hparts]
        exact Drawing.shows_svg rfl rfl rfl (Drawing.isPlaced_placement s _)
    · rintro outcome files' ⟨⟩ hother
      exact absurd rfl (hother done)
  · rw [hinvoke]
    refine ⟨nofun, ?_⟩
    rintro outcome files' ⟨⟩ -
    rfl

/-- Arguments for a word of two lines, to be drawn into a file in colors by chance. -/
def sketch : Arguments :=
  ⟨[("axiom", .str "F"), ("rules", .str "F -> F+F"), ("depth", .int 1), ("angle", .float 90),
    ("compression_factor", .float 1), ("fg_color", .function "random"),
    ("output", .str "sketch.svg")]⟩

/-- Where the turtle of the sketch turns: it has gone up from the origin. -/
def corner : Point := ⟨0 + 10 * (radians 90).cos, 0 + 10 * (radians 90).sin⟩

/-- Where the turtle of the sketch stops: it has gone on to the right. -/
def corner.next : Point := ⟨corner.x + 10 * (radians 0).cos, corner.y + 10 * (radians 0).sin⟩

/-- The sketch has two lines of ten steps.  The first one starts in the middle of the canvas, and the
    second one where the first one ends. -/
theorem invoke_pictures_sketch :
    ∃ result files' text x y x' y',
      (target fun i => ⟨i, 10 + i, 20 + i⟩).invoke sketch .empty = (.done result, files')
      ∧ Tells result "symbols" 3 ∧ Tells result "segments" 2
      ∧ FileTree.Writes .empty "sketch.svg" text files'
      ∧ tags text = [
        ⟨.opens, "svg", [("xmlns", "http://www.w3.org/2000/svg"), ("width", "800"),
          ("height", "800"), ("viewBox", "0 0 800 800")]⟩,
        ⟨.whole, "rect", [("width", "100%"), ("height", "100%"), ("fill", "rgb(0,0,0)")]⟩,
        ⟨.whole, "line", [("x1", "400.00"), ("y1", "400.00"), ("x2", x), ("y2", y),
          ("stroke", "rgb(0,10,20)")]⟩,
        ⟨.whole, "line", [("x1", x), ("y1", y), ("x2", x'), ("y2", y'),
          ("stroke", "rgb(1,11,21)")]⟩,
        ⟨.closes, "svg", []⟩]
      ∧ InHundredths (400 + (corner.x - 0) * 1) x ∧ InHundredths (400 - (corner.y - 0) * 1) y
      ∧ InHundredths (400 + (corner.next.x - 0) * 1) x'
      ∧ InHundredths (400 - (corner.next.y - 0) * 1) y' := by
  obtain ⟨result, files', hrun⟩ : ∃ result files',
      (target fun i => ⟨i, 10 + i, 20 + i⟩).invoke sketch .empty = (.done result, files') :=
    ⟨_, _, rfl⟩
  obtain ⟨s, g, pace, segments, hs, hderives, hsummary, hlength, hwritten⟩ :=
    (invoke_pictures (fun i => ⟨i, 10 + i, 20 + i⟩) sketch .empty).1 result files' hrun
  obtain rfl := Except.ok.inj (hs.symm.trans (rfl : Settings.ofArguments sketch = .ok _))
  have hgrammar : Grammar.read "F" "F -> F+F" = .ok ⟨['F'], [('F', ['F', '+', 'F'])]⟩ := rfl
  obtain rfl := Except.ok.inj (hderives.grammar.symm.trans hgrammar)
  have hforward : pace.forward = ['F'] := hderives.forward
  have hangle : pace.angle = 90 := hderives.angle
  have hstride : pace.stride = 10 := by
    have hone : Number.power 1 1 = Number.powerOnto 1 1 1 1 := rfl
    have hten : (10 * Number.powerOnto 1 1 1 1 : Float) = 10 := rfl
    have hdepth : (Int32.ofNat 1).toInt = 1 := rfl
    have hfactor : pace.stride = 10 * Number.power 1 (Int32.ofNat 1).toInt := hderives.stride.2.2
    rw [hfactor, hdepth, hone, hten]
  obtain rfl : pace = ⟨['F'], 90, 10⟩ := by
    cases pace
    simp_all
  have htrace : trace ['F', '+', 'F'] ⟨['F'], 90, 10⟩ 0
      = .ok [⟨⟨0, 0⟩, corner, 90⟩, ⟨corner, corner.next, 0⟩] := rfl
  obtain rfl := Except.ok.inj (hderives.trace.symm.trans htrace)
  obtain ⟨text, hwrites, scale, center, lines, ⟨rfl, rfl⟩, htags, hcount, hlines⟩ := hwritten
  obtain ⟨first, second, rfl⟩ := List.length_eq_two.mp hcount
  obtain ⟨_, rfl, x1, y1, x, y, rfl, hstart, hcorner⟩ := hlines 0 (by simp) (by simp)
  obtain ⟨_, rfl, x2, y2, x', y', rfl, hagain, hstop⟩ := hlines 1 (by simp) (by simp)
  -- A point has one text only: the origin, and the corner where one line ends and the other starts.
  have hmiddle : InHundredths (400 + (0 - 0) * 1) "400.00" ∧
      InHundredths (400 - (0 - 0) * 1) "400.00" :=
    ⟨Number.inHundredths_iff.mpr (by decide), Number.inHundredths_iff.mpr (by decide)⟩
  obtain rfl := hstart.across.unique hmiddle.1
  obtain rfl := hstart.down.unique hmiddle.2
  obtain rfl := hagain.across.unique hcorner.across
  obtain rfl := hagain.down.unique hcorner.down
  exact ⟨result, files', text, x2, y2, x', y', hrun, hsummary.symbols, hsummary.segments, hwrites,
    htags, hcorner.across, hcorner.down, hstop.across, hstop.down⟩

end Questionnaire.Lindenmayer
