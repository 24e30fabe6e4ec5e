import Questionnaire.Proofs.FileTree.Frame

namespace Questionnaire

/-!
# The places of paths

A path that leads somewhere leads to the same place in all file trees, since nothing but directories
is on the way.

* `FileTree.placeOf` — that place.
* `FileTree.locate_eq_placeOf` — a path leads to no other one.
* `FileTree.placeOf_join` — a name below a path is one step below its place.
-/

/-! ### Steps -/

namespace Path

/-- The steps around a slash. -/
theorem stepsOf_slash (path more : String) :
    stepsOf (path ++ "/" ++ more) = stepsOf path ++ stepsOf more := by
  have htext : (path ++ "/" ++ more).toList = path.toList ++ '/' :: more.toList := by simp
  rw [stepsOf, htext, List.splitOnP_append_cons _ _ (by decide), List.filter_append,
    List.map_append, stepsOf, stepsOf]

/-- A name is its only step. -/
theorem stepsOf_step {name : String} (hname : IsStep name) : stepsOf name = [name] := by
  have hsplit : name.toList.splitOnP (· == '/') = [name.toList] := by
    apply List.splitOnP_eq_singleton
    intro c hc
    have hne : c ≠ '/' := fun heq => hname.notSlash (heq ▸ hc)
    simpa using hne
  have hfull : name.toList.isEmpty = false := by
    simpa using hname.nonempty
  rw [stepsOf, hsplit]
  simp [hfull]

/-- A path stands in front of a name not at all, with its own slash, or with a new one. -/
theorem join_cases (base : String) {name : String} (hname : IsStep name) :
    (base = "" ∧ join base name = name)
      ∨ (∃ front, base = front ++ "/" ∧ join base name = front ++ "/" ++ name)
      ∨ (IsBase base ∧ join base name = base ++ "/" ++ name) := by
  by_cases hempty : base = ""
  · refine .inl ⟨hempty, ?_⟩
    rw [join, hempty]
    simp
  · by_cases hopen : base.toList.getLast? = some '/'
    · obtain ⟨front, hfront⟩ := List.getLast?_eq_some_iff.mp hopen
      have hbase : base = String.ofList front ++ "/" := by
        apply String.toList_injective
        rw [hfront]
        simp
      refine .inr (.inl ⟨_, hbase, ?_⟩)
      rw [← hbase, join, if_neg (by simp [hname.head, hempty]), if_pos (by simp [hopen])]
    · exact .inr (.inr ⟨⟨hempty, hopen⟩, join_eq ⟨hempty, hopen⟩ hname.head⟩)

/-- A name adds its step to those of any path. -/
theorem stepsOf_join_step (base : String) {name : String} (hname : IsStep name) :
    stepsOf (join base name) = stepsOf base ++ [name] := by
  rcases join_cases base hname with ⟨rfl, hjoin⟩ | ⟨front, rfl, hjoin⟩ | ⟨-, hjoin⟩
  · rw [hjoin, stepsOf_step hname]
    rfl
  · have hfront : stepsOf (front ++ "/") = stepsOf front := by
      have hslash := stepsOf_slash front ""
      rw [String.append_empty] at hslash
      rw [hslash]
      exact List.append_nil _
    rw [hjoin, stepsOf_slash, stepsOf_step hname, hfront]
  · rw [hjoin, stepsOf_slash, stepsOf_step hname]

/-- A path below another one starts where that one does. -/
theorem absolute_join (base : String) {name : String} (hname : IsStep name) :
    ((join base name).toList.head? == some '/') = (base.toList.head? == some '/') := by
  have hne (front : String) : (front ++ "/").toList ≠ [] := by simp
  rcases join_cases base hname with ⟨rfl, hjoin⟩ | ⟨front, rfl, hjoin⟩ | ⟨hbase, hjoin⟩
  · rw [hjoin]
    simp [hname.head]
  · rw [hjoin, String.toList_append, List.head?_append_of_ne_nil _ (hne front)]
  · have hbase' : base.toList ≠ [] := by simpa using hbase.nonempty
    rw [hjoin, String.toList_append, List.head?_append_of_ne_nil _ (hne base),
      String.toList_append, List.head?_append_of_ne_nil _ hbase']

/-- A route has the steps of its path, and is absolute if the path is. -/
theorem route_steps {path : String} {route : Route} (h : Route.of? path = .ok route) :
    route.absolute = (path.toList.head? == some '/') ∧ route.steps = stepsOf path := by
  unfold Route.of? at h
  split at h
  · cases h
  · split at h
    · cases h
    · split at h
      · cases h
      · cases h
        exact ⟨rfl, rfl⟩

end Path

namespace FileTree

variable {t : FileTree}

/-! ### Places -/

/-- The place that steps lead to, if there is a way. -/
def follow : Place → List String → Place
  | place, [] => place
  | place, step :: rest =>
    if step == "." then follow place rest
    else if step == ".." then follow (above place) rest
    else follow (place ++ [step]) rest

/-- Steps are followed one after the other. -/
theorem follow_append (start : Place) (steps more : List String) :
    follow start (steps ++ more) = follow (follow start steps) more := by
  induction steps generalizing start with
  | nil => rfl
  | cons step steps ih =>
    rw [List.cons_append, follow, follow]
    split
    · exact ih start
    · split
      · exact ih (above start)
      · exact ih (start ++ [step])

/-- A name leads one step further. -/
theorem follow_step (start : Place) {name : String} (hname : Path.IsStep name) :
    follow start [name] = start ++ [name] := by
  simp [follow, hname.notHere, hname.notAbove]

/-- A way that can be gone ends where its steps lead. -/
theorem walk_eq_follow {steps : List String} {start finish : Place}
    (h : t.walk start steps = .ok finish) : finish = follow start steps := by
  -- The induction is on the steps: to stay, to go up, or to go down, which needs the name to exist.
  induction steps generalizing start with
  | nil => exact (Except.ok.inj h).symm
  | cons step steps ih =>
    obtain ⟨-, next, hadvance, hrest⟩ := walk_cons_eq_ok.mp h
    rw [ih hrest, follow]
    unfold advance at hadvance
    split at hadvance
    · rename_i hhere
      cases hadvance
      rw [if_pos hhere]
    · rename_i hhere
      rw [if_neg hhere]
      split at hadvance
      · rename_i habove
        cases hadvance
        rw [if_pos habove]
      · rename_i habove
        rw [if_neg habove]
        split at hadvance
        · cases hadvance
        · cases hadvance
          rfl

/-- The place that a path leads to, if it leads anywhere. -/
def placeOf (path : String) : Place :=
  follow (if path.toList.head? == some '/' then ["/"] else []) (Path.stepsOf path)

/-- A name below a base lies one step behind it. -/
theorem placeOf_join (base : String) {name : String} (hname : Path.IsStep name) :
    placeOf (Path.join base name) = placeOf base ++ [name] := by
  rw [placeOf, Path.absolute_join base hname, Path.stepsOf_join_step base hname, follow_append,
    follow_step _ hname, placeOf]

/-- A path leads to its place, in whatever tree. -/
theorem locate_eq_placeOf {path : String} {place : Place} (h : t.locate path = .ok place) :
    place = placeOf path := by
  obtain ⟨route, hroute, hwalk⟩ := Except.bind_eq_ok.mp h
  -- A slash at the end asks for a directory, but leads no further.
  have hend : follow (origin route) (if route.openEnd then route.steps ++ ["."] else route.steps)
      = follow (origin route) route.steps := by
    split
    · rw [follow_append]
      rfl
    · rfl
  obtain ⟨habsolute, hsteps⟩ := Path.route_steps hroute
  rw [walk_eq_follow hwalk, hend, origin, habsolute, hsteps, placeOf]

end FileTree

end Questionnaire
