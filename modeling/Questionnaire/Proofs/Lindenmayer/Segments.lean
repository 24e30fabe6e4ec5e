import Questionnaire.Proofs.Lindenmayer.Branch

namespace Questionnaire.Lindenmayer

/-!
# Segments

A walk goes on until a closing bracket finds none to close.  It draws one segment at each symbol that
moves the turtle, and never leaves the drawing: a segment starts where another one has ended, however
the turtle has come back to that place.

* `Pace.draws` — the symbols that draw.
* `Walk.step_cases` — all that a symbol can do.
* `Walk.run_eq_error` — where a walk fails.
* `Walk.run_length` — how many segments it draws.
* `Walk.IsConnected` — the turtle, and the places that it remembers, are on the drawing;
  `Walk.IsConnected.run` keeps this.
* `trace_connected` — which words can be drawn, and how the segments hang together.
-/

/-! ### Specification -/

/-- A symbol that draws: a forward symbol, unless it steers. -/
def Pace.draws (pace : Pace) (symbol : Char) : Bool :=
  !controls.contains symbol && pace.forward.contains symbol

/-- The beginning of a word, up to a symbol, closes more brackets than it opens. -/
def Exceeds (word : List Char) (index : Nat) : Prop :=
  (word.take (index + 1)).count '[' < (word.take (index + 1)).count ']'

/-- Whether a word closes too much at an index can be decided. -/
instance (word : List Char) (index : Nat) : Decidable (Exceeds word index) :=
  inferInstanceAs (Decidable (_ < _))

/-- A point on a drawing where a segment may start: the origin, or the end of a segment. -/
def Touches (drawn : List Segment) (p : Point) : Prop :=
  p = ⟨0, 0⟩ ∨ ∃ s ∈ drawn, p = s.finish

/-! ### Steps -/

/-- Only a closing bracket can fail, where none is open. -/
theorem heightAfter_eq_none_iff {height : Nat} {symbol : Char} :
    heightAfter height symbol = none ↔ symbol = ']' ∧ height = 0 := by
  unfold heightAfter
  by_cases hopen : symbol = '['
  · subst hopen
    simp
  · by_cases hclose : symbol = ']' <;> simp [hopen, hclose]

namespace Walk

variable {w w' : Walk} {pace : Pace} {symbol : Char} {index : Nat} {word : List Char}

/-- All that a symbol can do: a bracket remembers a place or goes back to the latest one, a symbol
    that draws takes a step, and every other one changes at most the heading. -/
theorem step_cases (h : w.step pace symbol = some w') :
    (pace.draws symbol = false ∧ w' = { w with remembered := w.turtle :: w.remembered })
    ∨ (pace.draws symbol = false
      ∧ ∃ turtle rest, w.remembered = turtle :: rest
        ∧ w' = { w with turtle := turtle, remembered := rest })
    ∨ (pace.draws symbol = false
      ∧ ∃ heading, w' = { w with turtle := { w.turtle with heading := heading } })
    ∨ (pace.draws symbol = true ∧ w' = w.stride pace) := by
  -- The match of `step` has five symbols, and a closing bracket may find nothing to go back to.
  unfold step at h
  split at h
  · exact .inl ⟨rfl, (Option.some.inj h).symm⟩
  · split at h
    · cases h
    · rename_i turtle rest hremembered
      exact .inr (.inl ⟨rfl, turtle, rest, hremembered, (Option.some.inj h).symm⟩)
  · exact .inr (.inr (.inl ⟨rfl, _, (Option.some.inj h).symm⟩))
  · exact .inr (.inr (.inl ⟨rfl, _, (Option.some.inj h).symm⟩))
  · rename_i hopen hclose hright hleft
    have hcontrol : controls.contains symbol = false := by
      simpa [controls] using ⟨hopen, hclose, hright, hleft⟩
    have hdraws : pace.draws symbol = pace.forward.contains symbol := by
      rw [Pace.draws, hcontrol, Bool.not_false, Bool.true_and]
    rw [hdraws]
    split at h
    · rename_i hforward
      exact .inr (.inr (.inr ⟨hforward, (Option.some.inj h).symm⟩))
    · rename_i hforward
      exact .inr (.inr (.inl ⟨by simpa using hforward, w.turtle.heading, (Option.some.inj h).symm⟩))

/-- One symbol draws one segment or none. -/
theorem step_length (h : w.step pace symbol = some w') :
    w'.drawn.length = w.drawn.length + [symbol].countP pace.draws := by
  obtain ⟨hdraws, rfl⟩ | ⟨hdraws, turtle, rest, -, rfl⟩ | ⟨hdraws, heading, rfl⟩ | ⟨hdraws, rfl⟩ :=
    step_cases h
  · simp [hdraws]
  · simp [hdraws]
  · simp [hdraws]
  · simp [hdraws, stride]

/-- One segment is drawn at each symbol that draws. -/
theorem run_length (h : w.run pace index word = .ok w') :
    w'.drawn.length = w.drawn.length + word.countP pace.draws := by
  induction word generalizing w index with
  | nil =>
    cases h
    rfl
  | cons symbol word ih =>
    obtain ⟨next, hstep, hrest⟩ := run_cons_eq_ok.mp h
    have hcount : (symbol :: word).countP pace.draws
        = [symbol].countP pace.draws + word.countP pace.draws := by
      rw [← List.countP_append, List.singleton_append]
    rw [ih hrest, step_length hstep, hcount, Nat.add_assoc]

/-! ### Failing walks -/

/-- A walk fails at a closing bracket before which as many brackets are closed as there have been
    opened. -/
theorem run_eq_error {failed : Nat} : w.run pace index word = .error failed
    ↔ ∃ front back, word = front ++ ']' :: back ∧ height? w.remembered.length front = some 0
      ∧ failed = index + front.length := by
  induction word generalizing w index with
  | nil => simp [run]
  | cons symbol word ih =>
    have hheight := step_height w pace symbol
    rw [run]
    cases hstep : w.step pace symbol with
    | none =>
      rw [hstep, Option.map_none] at hheight
      obtain ⟨rfl, hnone⟩ := heightAfter_eq_none_iff.mp hheight.symm
      constructor
      · rintro ⟨⟩
        exact ⟨[], word, rfl, by rw [height?_nil, hnone], rfl⟩
      · rintro ⟨front, back, hword, hfront, rfl⟩
        cases front with
        | nil => rfl
        | cons c front =>
          -- the bracket in front leaves no height
          obtain ⟨rfl, -⟩ := List.cons.inj hword
          rw [height?_cons, ← hheight] at hfront
          cases hfront
    | some next =>
      rw [hstep, Option.map_some] at hheight
      dsimp only
      rw [ih]
      constructor
      · rintro ⟨front, back, rfl, hfront, rfl⟩
        refine ⟨symbol :: front, back, rfl, ?_, ?_⟩
        · rw [height?_cons, ← hheight, Option.bind_some, hfront]
        · rw [List.length_cons, Nat.add_right_comm, Nat.add_assoc]
      · rintro ⟨front, back, hword, hfront, rfl⟩
        cases front with
        | nil =>
          -- the first symbol is a bracket that closes none, but it has been taken
          obtain ⟨rfl, -⟩ := List.cons.inj hword
          rw [height?_nil, Option.some_inj] at hfront
          rw [heightAfter_eq_none_iff.mpr ⟨rfl, hfront⟩] at hheight
          cases hheight
        | cons c front =>
          obtain ⟨rfl, rfl⟩ := List.cons.inj hword
          rw [height?_cons, ← hheight, Option.bind_some] at hfront
          refine ⟨front, back, rfl, hfront, ?_⟩
          rw [List.length_cons, Nat.add_right_comm, Nat.add_assoc]

end Walk

/-- A word without open brackets closes too many with one more. -/
theorem count_concat_closing {front : List Char} (h : height? 0 front = some 0) :
    (front ++ [']']).count '[' < (front ++ [']']).count ']' := by
  obtain ⟨-, hsame⟩ := height?_eq_some_iff.mp h
  have hopening : (front ++ [']']).count '[' = front.count '[' := by simp
  have hclosing : (front ++ [']']).count ']' = front.count ']' + 1 := by simp
  omega

/-- That bracket is the first one to do so. -/
theorem isLeast_exceeds {front back : List Char} (h : height? 0 front = some 0) :
    IsLeast {i | Exceeds (front ++ ']' :: back) i} front.length := by
  obtain ⟨hfronts, -⟩ := height?_eq_some_iff.mp h
  -- The prefix that ends with this bracket exceeds, and no shorter one does.
  constructor
  · have htake : (front ++ ']' :: back).take (front.length + 1) = front ++ [']'] := by
      rw [List.append_cons, List.take_left' (by simp)]
    show Exceeds _ _
    rw [Exceeds, htake]
    exact count_concat_closing h
  · intro i hi
    by_contra hlt
    have htake : (front ++ ']' :: back).take (i + 1) = front.take (i + 1) :=
      List.take_append_of_le_length (by omega)
    have hle := hfronts (front.take (i + 1)) (List.take_prefix _ _)
    have hexceeds : Exceeds (front ++ ']' :: back) i := hi
    rw [Exceeds, htake] at hexceeds
    omega

/-! ### Connected drawings -/

/-- What touches a drawing touches it with one segment more. -/
theorem Touches.cons {drawn : List Segment} {p : Point} (h : Touches drawn p) (s : Segment) :
    Touches (s :: drawn) p :=
  h.imp_right fun ⟨e, he, hp⟩ => ⟨e, List.mem_cons_of_mem s he, hp⟩

/-- Every segment starts on the drawing before it; the latest segment comes first. -/
inductive IsConnected : List Segment → Prop where
  | nil : IsConnected []
  | cons {s : Segment} {drawn : List Segment} (hstart : Touches drawn s.start)
    (hdrawn : IsConnected drawn) : IsConnected (s :: drawn)

/-- Each segment begins where an earlier one touches. -/
theorem IsConnected.touches {later earlier : List Segment} {s : Segment}
    (h : IsConnected (later ++ s :: earlier)) : Touches earlier s.start := by
  induction later with
  | nil =>
    cases h with
    | cons hstart hdrawn => exact hstart
  | cons e later ih =>
    cases h with
    | cons hstart hdrawn => exact ih hdrawn

namespace Walk

variable {w w' : Walk} {pace : Pace} {symbol : Char} {index : Nat} {word : List Char}

/-- The turtle is on the drawing, and so is every place that it may come back to. -/
structure IsConnected (w : Walk) : Prop where
  here : Touches w.drawn w.turtle.position
  remembered : ∀ t ∈ w.remembered, Touches w.drawn t.position
  drawn : Lindenmayer.IsConnected w.drawn

/-- Before anything has been drawn, all is connected. -/
theorem isConnected_start (initialAngle : Float) : (start initialAngle).IsConnected :=
  ⟨.inl rfl, nofun, .nil⟩

/-- A symbol keeps the drawing connected. -/
theorem IsConnected.step (h : w.IsConnected) (hstep : w.step pace symbol = some w') :
    w'.IsConnected := by
  obtain ⟨-, rfl⟩ | ⟨-, turtle, rest, hremembered, rfl⟩ | ⟨-, heading, rfl⟩ | ⟨-, rfl⟩ :=
    step_cases hstep
  · exact ⟨h.here, List.forall_mem_cons.mpr ⟨h.here, h.remembered⟩, h.drawn⟩
  · have hplaces := h.remembered
    rw [hremembered] at hplaces
    obtain ⟨hback, hrest⟩ := List.forall_mem_cons.mp hplaces
    exact ⟨hback, hrest, h.drawn⟩
  · exact ⟨h.here, h.remembered, h.drawn⟩
  · -- the turtle is where the new segment ends, and all other places are where they were
    exact ⟨.inr ⟨_, List.mem_cons_self, rfl⟩, fun t ht => (h.remembered t ht).cons _,
      .cons h.here h.drawn⟩

/-- A word keeps the drawing connected. -/
theorem IsConnected.run (h : w.IsConnected) (hrun : w.run pace index word = .ok w') :
    w'.IsConnected := by
  induction word generalizing w index with
  | nil =>
    cases hrun
    exact h
  | cons symbol word ih =>
    obtain ⟨next, hstep, hrest⟩ := run_cons_eq_ok.mp hrun
    exact ih (h.step hstep) hrest

end Walk

/-! ### Drawings -/

section Drawings

variable {word : List Char} {pace : Pace} {initialAngle : Float}

/-- Tracing fails at the first bracket that closes what nothing has opened. -/
theorem trace_eq_error {index : Nat} : trace word pace initialAngle = .error index
    ↔ ∃ front back, word = front ++ ']' :: back ∧ height? 0 front = some 0
      ∧ index = front.length := by
  rw [trace, Except.map_eq_error, Walk.run_eq_error]
  simp [Walk.start]

/-- A word cannot be drawn if and only if one of its beginnings closes too many brackets. -/
theorem trace_error_iff : (∃ index, trace word pace initialAngle = .error index)
    ↔ ∃ front, front <+: word ∧ front.count '[' < front.count ']' := by
  constructor
  · rintro ⟨index, herror⟩
    obtain ⟨front, back, rfl, hfront, -⟩ := trace_eq_error.mp herror
    exact ⟨front ++ [']'], ⟨back, by simp⟩, count_concat_closing hfront⟩
  · rintro ⟨front, hfront, hcount⟩
    cases htrace : trace word pace initialAngle with
    | error index => exact ⟨index, rfl⟩
    | ok segments =>
      obtain ⟨height, hheight⟩ := (trace_ok_iff word pace initialAngle).mp ⟨segments, htrace⟩
      have hle := (height?_eq_some_iff.mp hheight).1 front hfront
      omega

/-- As many segments are drawn as there are symbols that draw. -/
theorem trace_length {segments : List Segment} (h : trace word pace initialAngle = .ok segments) :
    segments.length = word.countP pace.draws := by
  obtain ⟨w, hrun, rfl⟩ := trace_eq_ok.mp h
  rw [List.length_reverse, Walk.run_length hrun]
  simp [Walk.start]

/-- The beginning of a word draws the first segments. -/
theorem trace_front {front back : List Char} {segments : List Segment}
    (h : trace (front ++ back) pace initialAngle = .ok segments) :
    trace front pace initialAngle = .ok (segments.take (front.countP pace.draws)) := by
  obtain ⟨w, hrun, rfl⟩ := trace_eq_ok.mp h
  rw [Walk.run_append] at hrun
  obtain ⟨v, hfront, hback⟩ := Except.bind_eq_ok.mp hrun
  obtain ⟨rest, -, hdrawn⟩ := Walk.run_drawn hback
  have htrace : trace front pace initialAngle = .ok v.drawn.reverse :=
    trace_eq_ok.mpr ⟨v, hfront, rfl⟩
  rw [hdrawn, ← trace_length htrace, List.take_left, htrace]

end Drawings

/-- **Segments.** A word cannot be drawn if and only if one of its beginnings closes more brackets
    than it opens, and then the first bracket that does so is told.  Otherwise there is one segment
    for each symbol that draws, in the order of these, and each starts at the origin or where an
    earlier one ends. -/
theorem trace_connected (word : List Char) (pace : Pace) (initialAngle : Float) :
    ((∃ index, trace word pace initialAngle = .error index)
        ↔ ∃ front, front <+: word ∧ front.count '[' < front.count ']')
      ∧ (∀ index, trace word pace initialAngle = .error index →
        word[index]? = some ']' ∧ IsLeast {i | Exceeds word i} index)
      ∧ ∀ segments, trace word pace initialAngle = .ok segments →
        segments.length = word.countP pace.draws
        ∧ (∀ front, front <+: word →
          trace front pace initialAngle = .ok (segments.take (front.countP pace.draws)))
        ∧ ∀ earlier s later, segments = earlier ++ s :: later → Touches earlier s.start := by
  refine ⟨trace_error_iff, fun index herror => ?_, fun segments htrace => ⟨trace_length htrace, ?_, ?_⟩⟩
  · obtain ⟨front, back, rfl, hfront, rfl⟩ := trace_eq_error.mp herror
    exact ⟨by simp, isLeast_exceeds hfront⟩
  · rintro front ⟨back, rfl⟩
    exact trace_front htrace
  · rintro earlier s later rfl
    -- The walk keeps its segments in reverse, the latest one first.
    obtain ⟨w, hrun, hdrawn⟩ := trace_eq_ok.mp htrace
    have hconnected := ((Walk.isConnected_start initialAngle).run hrun).drawn
    have hreverse : w.drawn = later.reverse ++ s :: earlier.reverse := by
      simpa using congrArg List.reverse hdrawn
    rw [hreverse] at hconnected
    simpa [Touches] using hconnected.touches

/-- A branch and what comes behind it, and a word with one closing bracket too many. -/
theorem trace_connected_branch :
    (∃ first second third, trace "F[+F]F".toList ⟨['F', '+'], 90, 1⟩ 0 = .ok [first, second, third]
        ∧ Touches [first, second] third.start)
      ∧ trace "F[F]]F]".toList ⟨['F'], 90, 1⟩ 0 = .error 4 := by
  constructor
  · obtain ⟨hfails, -, hdraws⟩ := trace_connected "F[+F]F".toList ⟨['F', '+'], 90, 1⟩ 0
    cases htrace : trace "F[+F]F".toList ⟨['F', '+'], 90, 1⟩ 0 with
    | error index =>
      obtain ⟨front, hfront, hcount⟩ := hfails.mp ⟨index, htrace⟩
      have hbalanced : IsBalanced "F[+F]F".toList := by decide
      have hle := hbalanced.closing_le front hfront
      omega
    | ok segments =>
      obtain ⟨hlength, -, htouches⟩ := hdraws segments htrace
      obtain ⟨first, second, third, rfl⟩ := List.length_eq_three.mp hlength
      exact ⟨first, second, third, rfl, htouches [first, second] third [] rfl⟩
  · obtain ⟨hfails, hfirst, -⟩ := trace_connected "F[F]]F]".toList ⟨['F'], 90, 1⟩ 0
    obtain ⟨index, hindex⟩ := hfails.mpr ⟨"F[F]]".toList, by decide, by decide⟩
    obtain ⟨hbracket, hexceeds, hlower⟩ := hfirst index hindex
    have hle : index ≤ 4 := hlower (by decide : Exceeds "F[F]]F]".toList 4)
    -- The bound from above is the claim's, and the one from below is checked on the fixed word.
    have hnone : ∀ i < 4, ¬ Exceeds "F[F]]F]".toList i := by decide
    have hge : ¬ index < 4 := fun hlt => hnone index hlt hexceeds
    rw [hindex, show index = 4 by omega]

end Questionnaire.Lindenmayer
