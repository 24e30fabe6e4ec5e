import Questionnaire.Proofs.Lindenmayer.Bracket

namespace Questionnaire.Lindenmayer

/-!
# Branches

A branch is a balanced word in brackets.  The turtle comes back from it to where it has left the
stem, so what stands behind the branch is drawn as if there were none.

* `Walk.run_append` — a walk over two words is a walk over the first and then over the second.
* `Walk.run_onto` — a walk does the same whatever has been remembered and drawn before it.
* `Walk.run_branch` — a branch is drawn, and the turtle is where it was.
* `trace_branch` — a drawing with a branch, and the same without it.
-/

/-! ### Heights -/

/-- A balanced word in brackets leaves the brackets around it as they are. -/
theorem IsBalanced.height?_branch {twig : List Char} (h : IsBalanced twig) (height : Nat)
    (tip : List Char) :
    Lindenmayer.height? height ('[' :: twig ++ ']' :: tip) = Lindenmayer.height? height tip := by
  have hopen : heightAfter height '[' = some (height + 1) := rfl
  have hclose : heightAfter (height + 1) ']' = some height := rfl
  rw [List.cons_append, height?_cons, hopen, Option.bind_some, height?_append, h.height?,
    Option.bind_some, height?_cons, hclose, Option.bind_some]

namespace Walk

variable {w w' : Walk} {pace : Pace} {index : Nat} {word : List Char}

/-! ### Parts of a walk -/

/-- A walk comes to its end if no bracket is missing on the way. -/
theorem run_ok_iff (w : Walk) (pace : Pace) (index : Nat) (word : List Char) :
    (∃ w', w.run pace index word = .ok w')
      ↔ ∃ height, height? w.remembered.length word = some height := by
  rw [← w.run_height pace index]
  simp [Except.toOption_eq_some]

/-- Another walk comes to its end too, if it has remembered as many places. -/
theorem exists_run (h : w.run pace index word = .ok w') (other : Walk)
    (hlength : other.remembered.length = w.remembered.length) (start : Nat) :
    ∃ e, other.run pace start word = .ok e := by
  rw [run_ok_iff, hlength, ← run_ok_iff w pace index]
  exact ⟨w', h⟩

/-- A word that is run has its first symbol taken, and then the others. -/
theorem run_cons_eq_ok {symbol : Char} : w.run pace index (symbol :: word) = .ok w'
    ↔ ∃ next, w.step pace symbol = some next ∧ next.run pace (index + 1) word = .ok w' := by
  rw [run]
  cases w.step pace symbol <;> simp

/-- The index is told only when a walk fails. -/
theorem run_index (h : w.run pace index word = .ok w') (other : Nat) :
    w.run pace other word = .ok w' := by
  induction word generalizing w index other with
  | nil => exact h
  | cons symbol word ih =>
    obtain ⟨next, hstep, hrest⟩ := run_cons_eq_ok.mp h
    exact run_cons_eq_ok.mpr ⟨next, hstep, ih hrest (other + 1)⟩

/-- A walk over two words is a walk over the first and then over the second. -/
theorem run_append (w : Walk) (pace : Pace) (index : Nat) (word more : List Char) :
    w.run pace index (word ++ more)
      = w.run pace index word >>= fun next => next.run pace (index + word.length) more := by
  induction word generalizing w index with
  | nil => rfl
  | cons symbol word ih =>
    rw [List.cons_append, run, run, List.length_cons]
    cases w.step pace symbol with
    | none => rfl
    | some next =>
      dsimp only
      rw [ih, Nat.add_right_comm, Nat.add_assoc]

/-! ### What came before -/

/-- A walk with more turtles and segments below those that it remembers and has drawn. -/
def onto (w : Walk) (turtles : List Turtle) (segments : List Segment) : Walk :=
  ⟨w.turtle, w.remembered ++ turtles, w.drawn ++ segments⟩

/-- A step that is possible does not look below what it finds. -/
theorem step_onto {symbol : Char} (h : w.step pace symbol = some w') (turtles : List Turtle)
    (segments : List Segment) :
    (w.onto turtles segments).step pace symbol = some (w'.onto turtles segments) := by
  -- The turtles and segments below are carried along; only `]` looks at what is remembered, and it
  -- takes the topmost one.
  unfold step at h ⊢
  split at h
  · cases h
    rfl
  · cases hremembered : w.remembered with
    | nil =>
      rw [hremembered] at h
      cases h
    | cons turtle rest =>
      rw [hremembered] at h
      cases h
      simp [onto, hremembered]
  · cases h
    rfl
  · cases h
    rfl
  · split at h
    · next hopen hclose hright hleft hforward =>
      cases h
      simp only [hforward, if_true]
      rfl
    · next hopen hclose hright hleft hforward =>
      cases h
      simp only [hforward]
      rfl

/-- A walk does the same whatever has been remembered and drawn before it. -/
theorem run_onto (h : w.run pace index word = .ok w') (turtles : List Turtle)
    (segments : List Segment) :
    (w.onto turtles segments).run pace index word = .ok (w'.onto turtles segments) := by
  induction word generalizing w index with
  | nil =>
    cases h
    rfl
  | cons symbol word ih =>
    obtain ⟨next, hstep, hrest⟩ := run_cons_eq_ok.mp h
    exact run_cons_eq_ok.mpr ⟨_, step_onto hstep turtles segments, ih hrest⟩

/-- What a walk draws over a word, without what it has drawn before. -/
def draws (w : Walk) (pace : Pace) (word : List Char) : Except Nat (List Segment) :=
  (fun w => w.drawn.reverse) <$> { w with drawn := [] }.run pace 0 word

/-- What is drawn comes behind what has been drawn before. -/
theorem run_drawn (h : w.run pace index word = .ok w') :
    ∃ segments, w.draws pace word = .ok segments
      ∧ w'.drawn.reverse = w.drawn.reverse ++ segments := by
  obtain ⟨e, he⟩ := exists_run h { w with drawn := [] } rfl 0
  have honto := run_index (run_onto he [] w.drawn) index
  have hbase : ({ w with drawn := [] } : Walk).onto [] w.drawn = w := by simp [onto]
  rw [hbase, h] at honto
  cases honto
  refine ⟨e.drawn.reverse, ?_, by simp [onto]⟩
  rw [draws, he]
  rfl

/-- A branch is drawn, and the turtle is where it was, with all that it has remembered. -/
theorem run_branch {twig : List Char} (h : IsBalanced twig) (w : Walk) (pace : Pace)
    (index : Nat) :
    ∃ segments, w.draws pace twig = .ok segments
      ∧ w.run pace index ('[' :: twig ++ [']'])
        = .ok { w with drawn := segments.reverse ++ w.drawn } := by
  -- The twig is drawn alone first: there the turtle ends with nothing remembered.
  obtain ⟨e, he, hlength⟩ := run_balanced h ⟨w.turtle, [], []⟩ pace 0
  have hnone : e.remembered = [] := List.eq_nil_of_length_eq_zero hlength
  refine ⟨e.drawn.reverse, ?_, ?_⟩
  · have halone : { w with drawn := [] }.run pace 0 twig = .ok (e.onto w.remembered []) :=
      run_onto he w.remembered []
    rw [draws, halone]
    simp [onto]
  · -- Inside the bracket the place where it stands now is the only one on top of the others.
    have hinside : { w with remembered := w.turtle :: w.remembered }.run pace (index + 1) twig
        = .ok ⟨e.turtle, w.turtle :: w.remembered, e.drawn ++ w.drawn⟩ := by
      have honto := run_index (run_onto he (w.turtle :: w.remembered) w.drawn) (index + 1)
      simpa [onto, hnone] using honto
    have hopen : w.run pace index ('[' :: (twig ++ [']']))
        = { w with remembered := w.turtle :: w.remembered }.run pace (index + 1) (twig ++ [']']) :=
      rfl
    rw [List.cons_append, hopen, run_append, hinside, List.reverse_reverse]
    rfl

end Walk

/-! ### Drawings -/

/-- Tracing gives what a run has drawn, in the order of drawing. -/
theorem trace_eq_ok {word : List Char} {pace : Pace} {initialAngle : Float}
    {segments : List Segment} : trace word pace initialAngle = .ok segments
      ↔ ∃ w, (Walk.start initialAngle).run pace 0 word = .ok w ∧ w.drawn.reverse = segments :=
  Except.map_eq_ok

/-- A word can be drawn if no bracket is missing in it. -/
theorem trace_ok_iff (word : List Char) (pace : Pace) (initialAngle : Float) :
    (∃ segments, trace word pace initialAngle = .ok segments)
      ↔ ∃ height, height? 0 word = some height := by
  have hrun := (Walk.start initialAngle).run_ok_iff pace 0 word
  simp only [trace_eq_ok]
  rw [← show (Walk.start initialAngle).remembered.length = 0 from rfl, ← hrun]
  exact ⟨fun ⟨_, w, h, _⟩ => ⟨w, h⟩, fun ⟨w, h⟩ => ⟨_, w, h, rfl⟩⟩

/-- **Branches.** A word with a branch can be drawn if and only if it can be drawn without the
    branch.  First comes what the stem draws, then what the twig draws from where the turtle is
    then, and then what the tip draws from there too, which is all that comes behind the stem
    without the branch. -/
theorem trace_branch {twig : List Char} (h : IsBalanced twig) (stem tip : List Char) (pace : Pace)
    (initialAngle : Float) :
    ((∃ segments, trace (stem ++ ('[' :: twig ++ ']' :: tip)) pace initialAngle = .ok segments)
        ↔ ∃ segments, trace (stem ++ tip) pace initialAngle = .ok segments)
      ∧ ∀ segments,
        trace (stem ++ ('[' :: twig ++ ']' :: tip)) pace initialAngle = .ok segments →
        ∃ w trunk branch rest, (Walk.start initialAngle).run pace 0 stem = .ok w
          ∧ trace stem pace initialAngle = .ok trunk
          ∧ w.draws pace twig = .ok branch
          ∧ w.draws pace tip = .ok rest
          ∧ segments = trunk ++ branch ++ rest
          ∧ trace (stem ++ tip) pace initialAngle = .ok (trunk ++ rest) := by
  constructor
  · rw [trace_ok_iff, trace_ok_iff, height?_append, height?_append]
    simp only [h.height?_branch]
  · intro segments hsegments
    obtain ⟨e, hall, rfl⟩ := trace_eq_ok.mp hsegments
    rw [Walk.run_append] at hall
    obtain ⟨w, hstem, hrest⟩ := Except.bind_eq_ok.mp hall
    obtain ⟨branch, hbranch, hrun⟩ := Walk.run_branch h w pace (0 + stem.length)
    have hsplit : '[' :: twig ++ ']' :: tip = ('[' :: twig ++ [']']) ++ tip := by simp
    rw [hsplit, Walk.run_append] at hrest
    obtain ⟨back, hback, hrest⟩ := Except.bind_eq_ok.mp hrest
    obtain rfl := Except.ok.inj (hrun.symm.trans hback)
    obtain ⟨rest, htip, hdrawn⟩ := Walk.run_drawn hrest
    -- Without the branch the tip is drawn by the same turtle.
    obtain ⟨e', he'⟩ := Walk.exists_run hrest w rfl (0 + stem.length)
    obtain ⟨rest', htip', hdrawn'⟩ := Walk.run_drawn he'
    obtain rfl : rest = rest' := Except.ok.inj (htip.symm.trans htip')
    refine ⟨w, w.drawn.reverse, branch, rest, hstem, trace_eq_ok.mpr ⟨w, hstem, rfl⟩, hbranch,
      htip', ?_, trace_eq_ok.mpr ⟨e', ?_, hdrawn'⟩⟩
    · rw [hdrawn]
      simp
    · rw [Walk.run_append]
      exact Except.bind_eq_ok.mpr ⟨w, hstem, he'⟩

/-- A branch with a branch of its own, behind a stem that leaves a bracket open. -/
theorem trace_branch_nested :
    IsBalanced "+F[-F]F".toList
      ∧ ∃ w trunk branch rest, (Walk.start 0).run ⟨['F'], 25, 10⟩ 0 "F[F".toList = .ok w
          ∧ trace "F[F".toList ⟨['F'], 25, 10⟩ 0 = .ok trunk
          ∧ w.draws ⟨['F'], 25, 10⟩ "+F[-F]F".toList = .ok branch
          ∧ w.draws ⟨['F'], 25, 10⟩ "-F]F".toList = .ok rest
          ∧ trace "F[F[+F[-F]F]-F]F".toList ⟨['F'], 25, 10⟩ 0 = .ok (trunk ++ branch ++ rest)
          ∧ trace "F[F-F]F".toList ⟨['F'], 25, 10⟩ 0 = .ok (trunk ++ rest) := by
  have htwig : IsBalanced "+F[-F]F".toList := by decide
  obtain ⟨hiff, hparts⟩ := trace_branch htwig "F[F".toList "-F]F".toList ⟨['F'], 25, 10⟩ 0
  obtain ⟨segments, hsegments⟩ := hiff.mpr ((trace_ok_iff _ _ _).mpr ⟨0, by decide⟩)
  obtain ⟨w, trunk, branch, rest, hstem, htrunk, hbranch, hrest, rfl, hwithout⟩ :=
    hparts segments hsegments
  exact ⟨htwig, w, trunk, branch, rest, hstem, htrunk, hbranch, hrest, hsegments, hwithout⟩

end Questionnaire.Lindenmayer
