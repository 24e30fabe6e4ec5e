import Mathlib.Data.Bool.AllAny
import Mathlib.Data.List.Basic

namespace Questionnaire.Markup

/-!
# Markup

A marked-up text is read tag by tag, so that it can be said what a picture shows without saying how
it is written.

* `Tag`, `Tag.read`, `tags` — the tags of a text, each with its name and its attributes.
* `Tag.line` — a tag as it is written on a line.
* `tags_lines` — the tags that are written are the tags that are read, as long as names and values
  have none of the characters that mark them.
-/

/-! ### Tags -/

/-- What a tag does with an element. -/
inductive TagKind where
  | opens
  | closes
  /-- The tag is a whole element, with nothing inside. -/
  | whole
deriving Repr, DecidableEq

/-- A tag: the name of an element, and attributes with their values. -/
structure Tag where
  kind : TagKind
  name : String
  attributes : List (String × String)
deriving Repr, DecidableEq

/-! ### Reading -/

/-- The attributes in the pieces of a tag between quotes.  Before every value stands a label, which
    ends with the name of the attribute and an equals sign. -/
def readAttributes : List (List Char) → List (String × String)
  | label :: value :: rest =>
    (String.ofList (label.dropLast.reverse.takeWhile (· != ' ')).reverse, String.ofList value)
      :: readAttributes rest
  | _ => []

/-- The kind of a tag, by the slash in front of its name or at its end. -/
def TagKind.read (inside : List Char) : TagKind :=
  if inside.head? == some '/' then .closes
  else if inside.getLast? == some '/' then .whole
  else .opens

/-- The tag whose opening bracket stands in front of a text. -/
def Tag.read (text : List Char) : Tag :=
  let inside := text.takeWhile (· != '>')
  { kind := TagKind.read inside
    name := String.ofList
      ((inside.dropWhile (· == '/')).takeWhile fun c => c != ' ' && c != '/')
    attributes := readAttributes (inside.splitOnP (· == '"')) }

/-- The tags of a text, in the order in which they stand there. -/
def tags (text : String) : List Tag := ((text.toList.splitOnP (· == '<')).drop 1).map Tag.read

/-! ### Writing -/

/-- A name with its value. -/
def attributeText (pair : String × String) : List Char :=
  ' ' :: pair.1.toList ++ '=' :: '"' :: pair.2.toList ++ ['"']

/-- The slash in front of the name of a tag. -/
def TagKind.lead : TagKind → List Char
  | .closes => ['/']
  | .opens | .whole => []

/-- The slash at the end of a tag. -/
def TagKind.trail : TagKind → List Char
  | .whole => ['/']
  | .opens | .closes => []

/-- What stands between the brackets of a tag. -/
def Tag.inside (t : Tag) : List Char :=
  t.kind.lead ++ t.name.toList ++ t.attributes.flatMap attributeText ++ t.kind.trail

/-- A line with a tag on it. -/
def Tag.line (t : Tag) : List Char := '<' :: t.inside ++ ['>', '\n']

/-- A value: a text without brackets and quotes. -/
def IsValue (value : String) : Prop := ∀ c ∈ value.toList, c ∉ ['<', '>', '"']

/-- A name: a text without brackets, quotes, blanks and slashes. -/
def IsName (name : String) : Prop := ∀ c ∈ name.toList, c ∉ ['<', '>', '"', ' ', '/']

/-- Whether a text is a value can be decided. -/
instance (value : String) : Decidable (IsValue value) :=
  decidable_of_iff _ List.all_iff_forall_prop

/-- Whether a text is a name can be decided. -/
instance (name : String) : Decidable (IsName name) :=
  decidable_of_iff _ List.all_iff_forall_prop

/-- A tag that can be read back. -/
structure Tag.IsReadable (t : Tag) : Prop where
  nonempty : t.name ≠ ""
  name : IsName t.name
  attributes : ∀ pair ∈ t.attributes, IsName pair.1 ∧ IsValue pair.2

/-! ### Characters -/

/-- A name has none of the characters that end it. -/
theorem IsName.not_mem {name : String} (h : IsName name) {c : Char}
    (hc : c ∈ ['<', '>', '"', ' ', '/']) : c ∉ name.toList := fun hmem => h c hmem hc

/-- A value has none of the characters that mark tags. -/
theorem IsValue.not_mem {value : String} (h : IsValue value) {c : Char}
    (hc : c ∈ ['<', '>', '"']) : c ∉ value.toList := fun hmem => h c hmem hc

/-- Two values in a row are one. -/
theorem IsValue.append {value more : String} (h : IsValue value) (hmore : IsValue more) :
    IsValue (value ++ more) := by
  intro c hc
  rw [String.toList_append] at hc
  exact (List.mem_append.mp hc).elim (h c) (hmore c)

/-- The kind of a tag adds no other characters than slashes. -/
theorem TagKind.not_mem {c : Char} (hc : c ≠ '/') (kind : TagKind) :
    c ∉ kind.lead ∧ c ∉ kind.trail := by
  cases kind <;> simp [lead, trail, hc]

/-- Between its brackets a tag has no bracket. -/
theorem Tag.IsReadable.not_mem_inside {t : Tag} (h : t.IsReadable) {c : Char}
    (hc : c = '<' ∨ c = '>') : c ∉ t.inside := by
  have hvalue : c ∈ ['<', '>', '"'] := by rcases hc with rfl | rfl <;> decide
  have hname : c ∈ ['<', '>', '"', ' ', '/'] := List.mem_of_mem_take (i := 3) hvalue
  have hmark : c ≠ ' ' ∧ c ≠ '=' ∧ c ≠ '"' ∧ c ≠ '/' := by rcases hc with rfl | rfl <;> decide
  have hattributes : c ∉ t.attributes.flatMap attributeText := by
    intro hmem
    obtain ⟨pair, hpair, hmem⟩ := List.mem_flatMap.mp hmem
    obtain ⟨hkey, hpair⟩ := h.attributes pair hpair
    simp [attributeText, hkey.not_mem hname, hpair.not_mem hvalue, hmark] at hmem
  obtain ⟨hlead, htrail⟩ := t.kind.not_mem hmark.2.2.2
  simp [inside, hlead, htrail, h.name.not_mem hname, hattributes]

/-- What stands behind the name of a tag starts with a blank or a slash, if there is anything. -/
theorem head_attributes {attributes : List (String × String)} {kind : TagKind} {c : Char}
    (h : (attributes.flatMap attributeText ++ kind.trail).head? = some c) : c = ' ' ∨ c = '/' := by
  cases attributes with
  | nil =>
    cases kind with
    | opens | closes => cases h
    | whole =>
      cases h
      exact .inr rfl
  | cons pair attributes =>
    cases h
    exact .inl rfl

/-! ### Splitting -/

/-- Without a mark in it, every character of a text differs from the mark. -/
theorem beq_of_not_mem {mark : Char} {front : List Char} (h : mark ∉ front) :
    ∀ c ∈ front, (c == mark) = false := by
  intro c hc
  have hne : c ≠ mark := fun heq => h (heq ▸ hc)
  simpa using hne

/-- Without a mark in it, no character of a text is the mark. -/
theorem bne_of_not_mem {mark : Char} {front : List Char} (h : mark ∉ front) :
    ∀ c ∈ front, (c != mark) = true := by
  intro c hc
  rw [bne, beq_of_not_mem h c hc, Bool.not_false]

/-- A text without a mark is not split. -/
theorem splitOnP_eq_single {mark : Char} {front : List Char} (h : mark ∉ front) :
    front.splitOnP (· == mark) = [front] :=
  List.splitOnP_eq_singleton (beq_of_not_mem h)

/-- A text is split at the first mark. -/
theorem splitOnP_eq_cons {mark : Char} {front : List Char} (h : mark ∉ front) (rest : List Char) :
    (front ++ mark :: rest).splitOnP (· == mark) = front :: rest.splitOnP (· == mark) :=
  List.splitOnP_append_cons_of_forall_mem (beq_of_not_mem h) mark (by simp) rest

/-! ### Reading back -/

/-- The attributes that have been written after a text without quotes are read. -/
theorem readAttributes_flatMap {attributes : List (String × String)}
    (h : ∀ pair ∈ attributes, IsName pair.1 ∧ IsValue pair.2) {front tail : List Char}
    (hfront : '"' ∉ front) (htail : '"' ∉ tail) :
    readAttributes ((front ++ attributes.flatMap attributeText ++ tail).splitOnP (· == '"'))
      = attributes := by
  -- The induction is on the attributes, with the text before them left open.  Each one has two
  -- quotes, which cut it into its label, its value and the rest.
  induction attributes generalizing front with
  | nil =>
    have hquote : '"' ∉ front ++ tail := by simp [hfront, htail]
    rw [List.flatMap_nil, List.append_nil, splitOnP_eq_single hquote, readAttributes]
    nofun
  | cons pair attributes ih =>
    obtain ⟨⟨hkey, hvalue⟩, hrest⟩ := List.forall_mem_cons.mp h
    have hlabel : '"' ∉ front ++ ' ' :: pair.1.toList ++ ['='] := by
      simp [hfront, hkey.not_mem (c := '"') (by decide)]
    have htext : front ++ (pair :: attributes).flatMap attributeText ++ tail
        = (front ++ ' ' :: pair.1.toList ++ ['=']) ++ '"' :: (pair.2.toList
          ++ '"' :: ([] ++ attributes.flatMap attributeText ++ tail)) := by
      simp [attributeText]
    have hread : ((front ++ ' ' :: pair.1.toList ++ ['=']).dropLast.reverse.takeWhile
        (· != ' ')).reverse = pair.1.toList := by
      have hblank : ' ' ∉ pair.1.toList.reverse := by
        simpa using hkey.not_mem (c := ' ') (by decide)
      rw [List.dropLast_concat, List.reverse_append, List.reverse_cons, List.append_assoc,
        List.takeWhile_append_of_pos (bne_of_not_mem hblank)]
      simp
    rw [htext, splitOnP_eq_cons hlabel, splitOnP_eq_cons (hvalue.not_mem (by decide)),
      readAttributes, hread, ih hrest (by simp)]
    simp

/-- No name starts with a slash. -/
theorem IsName.exists_cons {name : String} (h : IsName name) (hfull : name ≠ "") :
    ∃ c rest, name.toList = c :: rest ∧ c ≠ '/' := by
  obtain ⟨c, rest, hname⟩ := List.exists_cons_of_ne_nil (l := name.toList) (by simpa using hfull)
  exact ⟨c, rest, hname, fun heq => h.not_mem (c := '/') (by decide) (by simp [hname, heq])⟩

/-- No name ends with a slash, with attributes or without. -/
theorem IsName.last_ne {name : String} (h : IsName name) (attributes : List (String × String)) :
    (name.toList ++ attributes.flatMap attributeText).getLast? ≠ some '/' := by
  rcases List.eq_nil_or_concat attributes with rfl | ⟨front, pair, rfl⟩
  · rw [List.flatMap_nil, List.append_nil]
    exact fun hlast => h.not_mem (by decide) (List.mem_of_getLast? hlast)
  · -- a value ends with a quote
    have hquote : (attributeText pair).getLast? = some '"' := by
      rw [attributeText, List.getLast?_concat]
    rw [List.concat_eq_append, List.flatMap_append, List.flatMap_singleton, ← List.append_assoc,
      List.getLast?_append_of_ne_nil _ (by simp [attributeText]), hquote]
    decide

/-- The kind of a tag is read by its slashes. -/
theorem read_kind {t : Tag} (h : t.IsReadable) : TagKind.read t.inside = t.kind := by
  obtain ⟨c, rest, hname, hslash⟩ := h.name.exists_cons h.nonempty
  have hlast := h.name.last_ne t.attributes
  cases hkind : t.kind with
  | closes => simp [Tag.inside, hkind, TagKind.lead, TagKind.read]
  | opens =>
    have hinside : t.inside = t.name.toList ++ t.attributes.flatMap attributeText := by
      simp [Tag.inside, hkind, TagKind.lead, TagKind.trail]
    rw [TagKind.read, hinside, if_neg (by simp [hname, hslash]), if_neg (by simpa using hlast)]
  | whole =>
    have hinside : t.inside = t.name.toList ++ t.attributes.flatMap attributeText ++ ['/'] := by
      simp [Tag.inside, hkind, TagKind.lead, TagKind.trail]
    rw [TagKind.read, hinside, if_neg (by simp [hname, hslash]), if_pos (by simp)]

/-- The name of a tag is read up to a blank or a slash. -/
theorem read_name {t : Tag} (h : t.IsReadable) :
    (t.inside.dropWhile (· == '/')).takeWhile (fun c => c != ' ' && c != '/') = t.name.toList := by
  obtain ⟨c, rest, hname, hslash⟩ := h.name.exists_cons h.nonempty
  have hlead : ∀ c ∈ t.kind.lead, (c == '/') = true := by
    cases t.kind <;> simp [TagKind.lead]
  have hinside : t.inside.dropWhile (· == '/')
      = t.name.toList ++ (t.attributes.flatMap attributeText ++ t.kind.trail) := by
    rw [Tag.inside, List.append_assoc, List.append_assoc, List.dropWhile_append_of_pos hlead]
    simp [hname, hslash]
  have hall : ∀ c ∈ t.name.toList, (c != ' ' && c != '/') = true := by
    intro c hc
    rw [bne_of_not_mem (h.name.not_mem (by decide)) c hc,
      bne_of_not_mem (h.name.not_mem (by decide)) c hc, Bool.true_and]
  rw [hinside, List.takeWhile_append_of_pos hall]
  cases htail : t.attributes.flatMap attributeText ++ t.kind.trail with
  | nil => simp
  | cons c tail =>
    have hmark : c = ' ' ∨ c = '/' := head_attributes (by rw [htail, List.head?_cons])
    rcases hmark with rfl | rfl <;> simp

/-- A tag that has been written on a line is read. -/
theorem read_line {t : Tag} (h : t.IsReadable) : Tag.read (t.inside ++ ['>', '\n']) = t := by
  have hinside : (t.inside ++ ['>', '\n']).takeWhile (· != '>') = t.inside := by
    rw [List.takeWhile_append_of_pos (bne_of_not_mem (h.not_mem_inside (.inr rfl)))]
    simp
  have hattributes : readAttributes (t.inside.splitOnP (· == '"')) = t.attributes := by
    obtain ⟨hlead, htrail⟩ := t.kind.not_mem (c := '"') (by decide)
    apply readAttributes_flatMap h.attributes _ htrail
    simp [hlead, h.name.not_mem (c := '"') (by decide)]
  rw [Tag.read, hinside, read_kind h, read_name h, hattributes, String.ofList_toList]

/-- The lines of tags fall apart at the opening brackets. -/
theorem splitOnP_lines {ts : List Tag} (h : ∀ t ∈ ts, t.IsReadable) {front : List Char}
    (hfront : '<' ∉ front) : (front ++ ts.flatMap Tag.line).splitOnP (· == '<')
      = front :: ts.map fun t => t.inside ++ ['>', '\n'] := by
  induction ts generalizing front with
  | nil =>
    rw [List.flatMap_nil, List.append_nil, splitOnP_eq_single hfront, List.map_nil]
  | cons t ts ih =>
    obtain ⟨ht, hrest⟩ := List.forall_mem_cons.mp h
    have hline : front ++ (t :: ts).flatMap Tag.line
        = front ++ '<' :: (t.inside ++ ['>', '\n'] ++ ts.flatMap Tag.line) := by
      simp [Tag.line]
    have hinside : '<' ∉ t.inside ++ ['>', '\n'] := by
      simp [ht.not_mem_inside (.inl rfl)]
    rw [hline, splitOnP_eq_cons hfront, ih hrest hinside, List.map_cons]

/-- **Markup.** The tags that are written on the lines of a text are the tags that are read. -/
theorem tags_lines {ts : List Tag} (h : ∀ t ∈ ts, t.IsReadable) {text : String}
    (htext : text.toList = ts.flatMap Tag.line) : tags text = ts := by
  have hread : ts.map (Tag.read ∘ fun t => t.inside ++ ['>', '\n']) = ts.map id :=
    List.map_congr_left fun t ht => read_line (h t ht)
  have hsplit := splitOnP_lines h (List.not_mem_nil (a := '<'))
  rw [List.nil_append] at hsplit
  rw [tags, htext, hsplit, List.drop_one, List.tail_cons, List.map_map, hread, List.map_id]

end Questionnaire.Markup
