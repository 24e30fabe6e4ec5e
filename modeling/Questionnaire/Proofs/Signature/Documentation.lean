import Mathlib.Data.List.Infix
import Questionnaire.Proofs.Text.Words
import Questionnaire.Signature.Doc

namespace Questionnaire.Signature

/-!
# Documentation with entries for parameters

Documentation is put together from a preamble, an entry for each parameter and a closing part.
Every entry is found again by its name, unless a text in front of it is misleading: the colon
behind a name and the text after it may together look like the marker of another parameter.

* `Documentation`, `Documentation.text` — the parts, and the text they make.
* `Opens` — a text begins with the marker of a parameter.
* `Documentation.Misleads` — a text looks like the marker of a parameter that comes later.
* `paramDoc_composed` — entries are found by their names.
* `paramDoc_misled` — a misleading text is taken for an entry.
-/

/-! ### Parts -/

/-- No marker stands in a text. -/
def IsFree (cs : List Char) : Prop := ∀ m ∈ markers, ¬ m <:+: cs

/-- The name of a parameter has neither blanks nor colons. -/
def IsName (cs : List Char) : Prop := cs ≠ [] ∧ ∀ c ∈ cs, Text.isBlank c = false ∧ c ≠ ':'

/-- The part behind the entries says what is returned or raised, and no more about parameters. -/
def IsClosing (cs : List Char) : Prop :=
  (cs = [] ∨ ∃ m ∈ markers, m <+: cs) ∧ ¬ markerStart <:+: cs

/-- Whether a text is free of markers can be decided. -/
instance (cs : List Char) : Decidable (IsFree cs) := List.decidableBAll _ _

/-- Whether a text may be a name can be decided. -/
instance (cs : List Char) : Decidable (IsName cs) :=
  @instDecidableAnd _ _ _ (List.decidableBAll _ _)

/-- Whether a text may be the closing part can be decided. -/
instance (cs : List Char) : Decidable (IsClosing cs) := instDecidableAnd

/-- The entry of a parameter: the blanks between the marker and the name, the name, and the text
    behind the colon. -/
structure Entry where
  gap : List Char
  name : List Char
  text : List Char
  gap_ne_nil : gap ≠ [] := by decide
  isGap : Text.IsGap gap := by decide
  isName : IsName name := by decide
  isFree : IsFree text := by decide

/-- The entries and the part behind them. -/
def body (closing : List Char) : List Entry → List Char
  | [] => closing
  | e :: rest => markerStart ++ (e.gap ++ (e.name ++ ':' :: (e.text ++ body closing rest)))

/-- The documentation of a function whose parameters have distinct names. -/
structure Documentation where
  preamble : List Char
  entries : List Entry
  closing : List Char
  isFree : IsFree preamble := by decide
  nodup : (entries.map (·.name)).Nodup := by decide
  isClosing : IsClosing closing := by decide

/-- The text of documentation. -/
def Documentation.text (d : Documentation) : List Char := d.preamble ++ body d.closing d.entries

/-- What is said about a parameter in a text, with one space in the place of every row of blanks;
    a blank text says nothing. -/
def fragment? (text : List Char) : Option String :=
  if Text.IsGap text then none else some (String.ofList (Text.collapseGaps (Text.trim text)))

/-- A text begins with the marker of a parameter. -/
def Opens (name cs : List Char) : Prop :=
  ∃ gap back, gap ≠ [] ∧ Text.IsGap gap ∧ cs = markerStart ++ (gap ++ (name ++ ':' :: back))

/-- The colon of an entry and what follows it begin with the marker of a parameter that has no entry
    so far. -/
def Documentation.Misleads (d : Documentation) (name : List Char) : Prop :=
  ∃ front e rest, d.entries = front ++ e :: rest ∧ (∀ x ∈ front ++ [e], x.name ≠ name)
    ∧ Opens name (':' :: (e.text ++ body d.closing rest))

/-! ### Markers in a text -/

/-- What stands behind a start is there exactly if the text begins with it. -/
theorem after_isSome_iff {start cs : List Char} :
    (Text.after? start cs).isSome = true ↔ start <+: cs := by
  constructor
  · intro h
    obtain ⟨back, hback⟩ := Option.isSome_iff_exists.mp h
    exact ⟨back, (Text.eq_of_after hback).symm⟩
  · rintro ⟨back, rfl⟩
    rw [Text.after_append]
    rfl

/-- A text begins with a colon, if it is not empty. -/
def StartsWithColon (cs : List Char) : Prop := ∀ c, cs.head? = some c → c = ':'

/-- A colon begins with a colon. -/
theorem startsWithColon_cons (cs : List Char) : StartsWithColon (':' :: cs) := by
  rintro c ⟨⟩
  rfl

/-- Every marker begins with a colon and has no other. -/
theorem exists_marker_eq : ∀ m ∈ markers, ∃ more, m = ':' :: more ∧ ':' ∉ more := by
  rw [markers]
  simp only [List.forall_mem_cons]
  exact ⟨⟨_, rfl, by decide⟩, ⟨_, rfl, by decide⟩, ⟨_, rfl, by decide⟩, by simp⟩

/-- The marker of a parameter is one of the markers. -/
theorem markerStart_mem : markerStart ∈ markers := List.mem_cons_self

/-- A marker does not begin in a text and end behind it if a colon follows the text. -/
theorem prefix_of_prefix_append {m cs back : List Char} (hm : m ∈ markers) (hcs : cs ≠ [])
    (hback : StartsWithColon back) (h : m <+: cs ++ back) : m <+: cs := by
  obtain ⟨more, rfl, hmore⟩ := exists_marker_eq m hm
  rcases List.prefix_or_prefix_of_prefix h (List.prefix_append cs back) with hin | ⟨tail, htail⟩
  · exact hin
  -- The marker is longer than the text, so the colon that follows would be in it.
  obtain ⟨c, cs, rfl⟩ := List.exists_cons_of_ne_nil hcs
  rw [List.cons_append] at htail
  obtain ⟨rfl, rfl⟩ := List.cons.inj htail
  rw [List.cons_append, List.cons_prefix_cons, List.prefix_append_right_inj] at h
  cases tail with
  | nil => simp
  | cons d tail =>
    obtain rfl : d = ':' := by
      obtain ⟨rest, rfl⟩ := h.2
      exact hback d rfl
    exact absurd (by simp) hmore

/-- Where a text without a marker stands in front of a colon, no marker begins in it. -/
theorem not_prefix_of_free {m cs back : List Char} {c : Char} (hm : m ∈ markers)
    (hfree : ¬ m <:+: c :: cs) (hback : StartsWithColon back) : ¬ m <+: c :: (cs ++ back) :=
  fun h => hfree (prefix_of_prefix_append hm (List.cons_ne_nil c cs) hback h).isInfix

/-! ### Names behind markers -/

/-- A name has no blanks to be trimmed in front. -/
theorem IsName.startsFull {name : List Char} (h : IsName name) (back : List Char) :
    Text.StartsFull (name ++ back) := by
  obtain ⟨c, name, rfl⟩ := List.exists_cons_of_ne_nil h.1
  exact Text.startsFull_cons (h.2 c (by simp)).1 _

/-- A name has no colon. -/
theorem IsName.colon_not_mem {name : List Char} (h : IsName name) : ':' ∉ name :=
  fun hmem => (h.2 ':' hmem).2 rfl

/-- A text that begins with no blank is found behind blanks. -/
theorem afterBlanks_append {gap text : List Char} (hne : gap ≠ []) (hgap : Text.IsGap gap)
    (htext : Text.StartsFull text) (hnonempty : text ≠ []) (back : List Char) :
    afterBlanks? text (gap ++ (text ++ back)) = some back := by
  obtain ⟨a, text, rfl⟩ := List.exists_cons_of_ne_nil hnonempty
  induction gap with
  | nil => exact absurd rfl hne
  | cons c gap ih =>
    rw [List.cons_append, afterBlanks?, if_pos (hgap c (by simp))]
    cases gap with
    | nil => rw [List.nil_append, Text.after_append]
    | cons d gap =>
      -- One more blank follows, with which the text does not begin.
      have hblank : Text.isBlank d = true := hgap d (by simp)
      have hno : Text.after? (a :: text) (d :: gap ++ (a :: text ++ back)) = none := by
        rw [List.cons_append, Text.after?, if_neg]
        rintro had
        rw [← beq_iff_eq.mp had, htext a rfl] at hblank
        cases hblank
      rw [hno]
      exact ih (List.cons_ne_nil d gap) fun x hx => hgap x (List.mem_cons_of_mem c hx)

/-- Before a text that comes after blanks stand blanks and nothing else. -/
theorem eq_of_afterBlanks {text cs back : List Char} (h : afterBlanks? text cs = some back) :
    ∃ gap, gap ≠ [] ∧ Text.IsGap gap ∧ cs = gap ++ (text ++ back) := by
  -- The induction is on the characters; each blank may be the last one before the marker.
  induction cs with
  | nil => cases h
  | cons c cs ih =>
    rw [afterBlanks?] at h
    split at h
    · rename_i hblank
      split at h
      · rename_i found hfound
        cases h
        refine ⟨[c], List.cons_ne_nil c [], ?_, by rw [Text.eq_of_after hfound]; rfl⟩
        simpa [Text.IsGap] using hblank
      · obtain ⟨gap, -, hgap, rfl⟩ := ih h
        exact ⟨c :: gap, List.cons_ne_nil c gap, List.forall_mem_cons.mpr ⟨hblank, hgap⟩, rfl⟩
    · cases h

/-- The marker of a parameter is found where the text begins with it. -/
theorem markerHere_append {gap name : List Char} (hne : gap ≠ []) (hgap : Text.IsGap gap)
    (hname : IsName name) (back : List Char) :
    markerHere? name (markerStart ++ (gap ++ (name ++ ':' :: back))) = some back := by
  have hback := afterBlanks_append hne hgap (hname.startsFull [':']) (by simp) back
  rw [List.append_assoc, List.singleton_append] at hback
  rw [markerHere?, Text.after_append, Option.bind_some, hback]

/-- Where a marker has been found, the text begins with it. -/
theorem opens_of_markerHere {name cs back : List Char} (h : markerHere? name cs = some back) :
    Opens name cs := by
  obtain ⟨later, hlater, hback⟩ := Option.bind_eq_some_iff.mp h
  obtain ⟨gap, hne, hgap, rfl⟩ := eq_of_afterBlanks hback
  refine ⟨gap, back, hne, hgap, ?_⟩
  rw [Text.eq_of_after hlater, List.append_assoc, List.singleton_append]

/-- Where a text does not begin with one, none has been found. -/
theorem markerHere_eq_none {name cs : List Char} (h : ¬ Opens name cs) :
    markerHere? name cs = none :=
  Option.eq_none_iff_forall_ne_some.mpr fun _ hback => h (opens_of_markerHere hback)

/-- A text that begins with the marker of a parameter begins as all markers do. -/
theorem Opens.isPrefix {name cs : List Char} (h : Opens name cs) : markerStart <+: cs := by
  obtain ⟨gap, back, -, -, rfl⟩ := h
  exact List.prefix_append _ _

/-- A marker is that of one parameter only. -/
theorem Opens.eq_name {gap name other back : List Char} (hgap : Text.IsGap gap)
    (hname : IsName name) (hother : IsName other)
    (h : Opens other (markerStart ++ (gap ++ (name ++ ':' :: back)))) : name = other := by
  obtain ⟨gap', back', -, hgap', heq⟩ := h
  -- The names are what is left behind the blanks, up to the first colon.
  have hdrop := congrArg (List.dropWhile Text.isBlank) (List.append_cancel_left heq)
  rw [Text.dropWhile_isBlank_gap hgap, Text.dropWhile_isBlank_gap hgap'] at hdrop
  have hfull := Text.trimStart_of_startsFull (hname.startsFull (':' :: back))
  have hfull' := Text.trimStart_of_startsFull (hother.startsFull (':' :: back'))
  rw [Text.trimStart] at hfull hfull'
  rw [hfull, hfull'] at hdrop
  have hsplit := Text.splitOnce_of_not_mem hname.colon_not_mem back
  rw [hdrop, Text.splitOnce_of_not_mem hother.colon_not_mem back'] at hsplit
  cases hsplit
  rfl

/-! ### The search for a marker -/

/-- Behind a character with which no marker begins, the marker is looked for in the rest. -/
theorem afterMarker_cons {name cs : List Char} {c : Char} (h : ¬ Opens name (c :: cs)) :
    afterMarker? name (c :: cs) = afterMarker? name cs := by
  rw [afterMarker?, markerHere_eq_none h]

/-- A marker begins with a colon. -/
theorem not_opens_of_ne {name cs : List Char} {c : Char} (h : c ≠ ':') :
    ¬ Opens name (c :: cs) := fun hopens =>
  h (List.cons_prefix_cons.mp hopens.isPrefix).1.symm

/-- No marker begins where there is no colon. -/
theorem afterMarker_append_of_not_mem {name front : List Char} (h : ':' ∉ front)
    (back : List Char) : afterMarker? name (front ++ back) = afterMarker? name back := by
  induction front with
  | nil => rfl
  | cons c front ih =>
    have hc : c ≠ ':' := (List.ne_of_not_mem_cons h).symm
    rw [List.cons_append, afterMarker_cons (not_opens_of_ne hc)]
    exact ih (List.not_mem_of_not_mem_cons h)

/-- No marker begins in a text that holds none, if a colon follows. -/
theorem afterMarker_append_of_free {name front : List Char} (h : ¬ markerStart <:+: front)
    {back : List Char} (hback : StartsWithColon back) :
    afterMarker? name (front ++ back) = afterMarker? name back := by
  induction front with
  | nil => rfl
  | cons c front ih =>
    have hno : ¬ Opens name (c :: (front ++ back)) := fun hopens =>
      not_prefix_of_free markerStart_mem h hback hopens.isPrefix
    rw [List.cons_append, afterMarker_cons hno]
    exact ih fun hin => h (hin.trans (List.suffix_cons c front).isInfix)

/-- There is no marker of a parameter where no marker is. -/
theorem afterMarker_eq_none {name cs : List Char} (h : ¬ markerStart <:+: cs) :
    afterMarker? name cs = none := by
  have hnil : StartsWithColon [] := by rintro c ⟨⟩
  rw [← List.append_nil cs, afterMarker_append_of_free h hnil, afterMarker?]

/-! ### Entries -/

/-- What comes after the preamble begins with a colon, unless it is empty. -/
theorem startsWithColon_body {closing : List Char} (h : IsClosing closing) (entries : List Entry) :
    StartsWithColon (body closing entries) := by
  cases entries with
  | cons e rest => exact startsWithColon_cons _
  | nil =>
    rcases h.1 with rfl | ⟨m, hm, back, rfl⟩
    · rintro c ⟨⟩
    · obtain ⟨more, rfl, -⟩ := exists_marker_eq m hm
      exact startsWithColon_cons _

/-- The blanks and the name of an entry hold no colon. -/
theorem Entry.colon_not_mem (e : Entry) : ':' ∉ e.gap ++ e.name := by
  intro hmem
  rcases List.mem_append.mp hmem with hgap | hname
  · exact absurd (e.isGap ':' hgap) (by decide)
  · exact e.isName.colon_not_mem hname

/-- The search passes over the entry of another parameter whose text does not mislead. -/
theorem afterMarker_entry {name closing : List Char} (hname : IsName name)
    (hclosing : IsClosing closing) {e : Entry} (hne : e.name ≠ name) {rest : List Entry}
    (hno : ¬ Opens name (':' :: (e.text ++ body closing rest))) :
    afterMarker? name (body closing (e :: rest)) = afterMarker? name (body closing rest) := by
  have hown : ¬ Opens name (body closing (e :: rest)) :=
    fun h => hne (h.eq_name e.isGap e.isName hname)
  -- Three stretches follow: up to the colon behind the name, that colon, and the text.
  calc afterMarker? name (body closing (e :: rest))
    _ = afterMarker? name ("param".toList ++ (e.gap ++ (e.name
          ++ ':' :: (e.text ++ body closing rest)))) := afterMarker_cons hown
    _ = afterMarker? name ("param".toList ++ (e.gap ++ e.name)
          ++ ':' :: (e.text ++ body closing rest)) := by simp only [List.append_assoc]
    _ = afterMarker? name (':' :: (e.text ++ body closing rest)) := by
      apply afterMarker_append_of_not_mem
      intro hmem
      rcases List.mem_append.mp hmem with hmarker | hmem
      · exact absurd hmarker (by decide)
      · exact e.colon_not_mem hmem
    _ = afterMarker? name (e.text ++ body closing rest) := afterMarker_cons hno
    _ = afterMarker? name (body closing rest) :=
      afterMarker_append_of_free (e.isFree markerStart markerStart_mem)
        (startsWithColon_body hclosing rest)

/-- The search passes over the entries of other parameters. -/
theorem afterMarker_entries {name closing : List Char} (hname : IsName name)
    (hclosing : IsClosing closing) {front : List Entry} (hne : ∀ e ∈ front, e.name ≠ name)
    {more : List Entry}
    (hno : ∀ before e rest, front = before ++ e :: rest →
      ¬ Opens name (':' :: (e.text ++ body closing (rest ++ more)))) :
    afterMarker? name (body closing (front ++ more)) = afterMarker? name (body closing more) := by
  induction front with
  | nil => rfl
  | cons e front ih =>
    rw [List.cons_append, afterMarker_entry hname hclosing (hne e (by simp)) (hno [] e front rfl)]
    refine ih (fun x hx => hne x (List.mem_cons_of_mem e hx)) fun before x rest hfront => ?_
    exact hno (e :: before) x rest (by rw [hfront]; rfl)

/-- The search ends behind the name of the parameter's own entry. -/
theorem afterMarker_own {closing : List Char} (e : Entry) (rest : List Entry) :
    afterMarker? e.name (body closing (e :: rest)) = some (e.text ++ body closing rest) := by
  have hhere : markerHere? e.name (body closing (e :: rest)) = some (e.text ++ body closing rest) :=
    markerHere_append e.gap_ne_nil e.isGap e.isName _
  rw [body, show markerStart = ':' :: "param".toList from rfl] at hhere ⊢
  rw [List.cons_append] at hhere ⊢
  rw [afterMarker?, hhere]

/-- A text without markers ends where the next marker begins. -/
theorem cutBefore_append {text back : List Char} (h : IsFree text)
    (hback : back = [] ∨ ∃ m ∈ markers, m <+: back) :
    Text.cutBefore markers (text ++ back) = text := by
  -- Whatever comes after the text starts with a colon, so no marker begins inside the text.
  have hcolon : StartsWithColon back := by
    rcases hback with rfl | ⟨m, hm, more, rfl⟩
    · rintro c ⟨⟩
    · obtain ⟨tail, rfl, -⟩ := exists_marker_eq m hm
      exact startsWithColon_cons _
  induction text with
  | nil =>
    rcases hback with rfl | ⟨m, hm, hprefix⟩
    · rfl
    · cases back with
      | nil => rfl
      | cons c back =>
        rw [List.nil_append, Text.cutBefore, if_pos]
        exact List.any_eq_true.mpr ⟨m, hm, after_isSome_iff.mpr hprefix⟩
  | cons c text ih =>
    rw [List.cons_append, Text.cutBefore, if_neg, ih]
    · exact fun m hm hin => h m hm (hin.trans (List.suffix_cons c text).isInfix)
    · intro hany
      obtain ⟨m, hm, hsome⟩ := List.any_eq_true.mp hany
      exact not_prefix_of_free hm (h m hm) hcolon (after_isSome_iff.mp hsome)

/-- What comes after the preamble begins with a marker, unless it is empty. -/
theorem body_marked {closing : List Char} (h : IsClosing closing) (entries : List Entry) :
    body closing entries = [] ∨ ∃ m ∈ markers, m <+: body closing entries := by
  cases entries with
  | nil => exact h.1
  | cons e rest => exact Or.inr ⟨markerStart, markerStart_mem, List.prefix_append _ _⟩

/-- The fragment of a parameter is the text behind its marker, up to the next one. -/
theorem paramDoc_eq (doc name : String) :
    paramDoc? doc name =
      (afterMarker? name.toList doc.toList).bind fun back =>
        fragment? (Text.cutBefore markers back) := by
  rw [paramDoc?]
  cases afterMarker? name.toList doc.toList with
  | none => rfl
  -- Words joined by blanks are nothing only if there are no words.
  | some back =>
    dsimp only
    rw [Option.bind_some, fragment?, ← Text.intercalate_words]
    by_cases hgap : Text.IsGap (Text.cutBefore markers back)
    · rw [if_pos hgap, Text.words_eq_nil_iff.mpr hgap]
    · obtain ⟨w, ws, hwords⟩ := List.exists_cons_of_ne_nil (mt Text.words_eq_nil_iff.mp hgap)
      rw [if_neg hgap, hwords]

/-- Only a text that begins with the letter of a marker can mislead. -/
theorem Documentation.not_misleads {d : Documentation}
    (h : ∀ e ∈ d.entries, e.text.head? ≠ some 'p') (name : List Char) : ¬ d.Misleads name := by
  rintro ⟨front, e, rest, hsplit, -, hopens⟩
  obtain ⟨back, hback⟩ := hopens.isPrefix
  have hhead : (e.text ++ body d.closing rest).head? = some 'p' := by
    rw [← (List.cons.inj hback).2]
    rfl
  have hmem : e ∈ d.entries := hsplit ▸ List.mem_append_right front (List.mem_cons_self ..)
  rw [List.head?_append] at hhead
  -- The text after the marker would have to begin with `p`, which is neither in a text nor a colon.
  cases htext : e.text.head? with
  | some c =>
    rw [htext] at hhead
    exact h e hmem (htext.trans hhead)
  | none =>
    rw [htext, Option.none_or] at hhead
    exact absurd (startsWithColon_body d.isClosing rest 'p' hhead) (by decide)

/-! ### Results -/

/-- **Entries.** In documentation that does not mislead about a name, the entry with that name says
    what is found, and nothing is found if there is none. -/
theorem paramDoc_composed (d : Documentation) {name : List Char} (hname : IsName name)
    (hclear : ¬ d.Misleads name) :
    (∀ e ∈ d.entries, e.name = name →
      paramDoc? (String.ofList d.text) (String.ofList name) = fragment? e.text)
    ∧ ((∀ e ∈ d.entries, e.name ≠ name) →
      paramDoc? (String.ofList d.text) (String.ofList name) = none) := by
  -- The search comes to any entry in front of which there is none with the name.
  have hreach (front more : List Entry) (hsplit : d.entries = front ++ more)
      (hne : ∀ e ∈ front, e.name ≠ name) :
      afterMarker? name d.text = afterMarker? name (body d.closing more) := by
    rw [Documentation.text, afterMarker_append_of_free (d.isFree _ markerStart_mem)
      (startsWithColon_body d.isClosing _), hsplit]
    refine afterMarker_entries hname d.isClosing hne fun before e rest hfront hopens => ?_
    refine hclear ⟨before, e, rest ++ more, ?_, ?_, hopens⟩
    · rw [hsplit, hfront, List.append_assoc, List.cons_append]
    · intro x hx
      apply hne x
      rw [hfront, List.append_cons]
      exact List.mem_append_left rest hx
  simp only [paramDoc_eq, String.toList_ofList]
  constructor
  · rintro e hmem rfl
    obtain ⟨front, rest, hsplit⟩ := List.append_of_mem hmem
    have hfirst : ∀ x ∈ front, x.name ≠ e.name := by
      intro x hx hxe
      have hnodup := d.nodup
      rw [hsplit, List.map_append, List.map_cons] at hnodup
      exact (List.nodup_append.mp hnodup).2.2 _ (List.mem_map_of_mem hx) _ (by simp) hxe
    rw [hreach front (e :: rest) hsplit hfirst, afterMarker_own, Option.bind_some,
      cutBefore_append e.isFree (body_marked d.isClosing rest)]
  · intro hne
    rw [hreach d.entries [] (List.append_nil _).symm hne, body, afterMarker_eq_none d.isClosing.2]
    rfl

/-- Documentation of three parameters, one of which is named like the beginning of another. -/
def figure : Documentation where
  preamble := "Draws (a.b).\n\n".toList
  entries := [
    { gap := " ".toList, name := "a.b".toList, text := " The [first]\n  thing.\n".toList },
    { gap := "\t ".toList, name := "a".toList, text := "\n".toList },
    { gap := " ".toList, name := "(x".toList, text := "last".toList }]
  closing := ":return: Nothing :raises: never".toList

/-- In a documentation that does not mislead, each parameter has its own text, even if one name is
    the beginning of another. -/
theorem paramDoc_figure :
    (∀ name, ¬ figure.Misleads name)
    ∧ paramDoc? (String.ofList figure.text) "a.b" = some "The [first] thing."
    ∧ paramDoc? (String.ofList figure.text) "a" = none
    ∧ paramDoc? (String.ofList figure.text) "b" = none := by
  have hclear : ∀ name, ¬ figure.Misleads name := Documentation.not_misleads (by decide)
  have hfound (name : List Char) (hname : IsName name) :=
    paramDoc_composed figure hname (hclear name)
  refine ⟨hclear, ?_, ?_, ?_⟩
  · exact (hfound "a.b".toList (by decide)).1 figure.entries[0] (by simp) rfl
  · exact (hfound "a".toList (by decide)).1 figure.entries[1] (by simp) rfl
  · exact (hfound "b".toList (by decide)).2 (by decide)

/-- Documentation in which the text of one parameter looks like the marker of another. -/
def misleading : Documentation where
  preamble := []
  entries := [{ gap := " ".toList, name := "a".toList, text := "param b: hello".toList }]
  closing := []

/-- A text that looks like the marker of a parameter without an entry is taken for its entry. -/
theorem paramDoc_misled :
    ¬ ∀ (d : Documentation) (name : List Char), IsName name →
      (∀ e ∈ d.entries, e.name = name →
        paramDoc? (String.ofList d.text) (String.ofList name) = fragment? e.text)
      ∧ ((∀ e ∈ d.entries, e.name ≠ name) →
        paramDoc? (String.ofList d.text) (String.ofList name) = none) := by
  intro hall
  have hfound :
      paramDoc? (String.ofList misleading.text) (String.ofList "b".toList) = some "hello" := by rfl
  have hnone := (hall misleading "b".toList (by decide)).2 (by decide)
  rw [hfound] at hnone
  cases hnone

end Questionnaire.Signature
