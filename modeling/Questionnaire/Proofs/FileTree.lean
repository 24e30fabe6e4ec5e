import Mathlib.Data.List.Basic
import Questionnaire.FileTree.Operations
import Questionnaire.Proofs.Except
import Questionnaire.Proofs.Text

namespace Questionnaire

/-!
# File trees

* `Path.stepsOf_join` — the steps of a path below a base.
* `FileTree.walk_setNode` — putting a file somewhere leaves every way through directories as it was.
* `FileTree.find_write` — after a file has been written, its path leads to it.
* `FileTree.write_below` — after a file has been written below a directory, it is there.
* `FileTree.locate_detour` — a detour matters only if it makes a path too long.
-/

/-! ### Paths -/

namespace Path

/-- A name that is a step of its own: it is not empty, leads nowhere else and has no slash. -/
structure IsStep (name : String) : Prop where
  nonempty : name ≠ ""
  notSlash : '/' ∉ name.toList
  notHere : name ≠ "."
  notAbove : name ≠ ".."

/-- A path that can stand in front of a slash and a name. -/
structure IsBase (base : String) : Prop where
  nonempty : base ≠ ""
  notOpen : base.toList.getLast? ≠ some '/'

/-- A step does not begin with a slash. -/
theorem IsStep.head {name : String} (h : IsStep name) : name.toList.head? ≠ some '/' :=
  fun hhead => h.notSlash (List.mem_of_mem_head? hhead)

/-- A step does not end with a slash. -/
theorem IsStep.last {name : String} (h : IsStep name) : name.toList.getLast? ≠ some '/' :=
  fun hlast => h.notSlash (List.mem_of_getLast? hlast)

/-- A base and a step are joined by a slash. -/
theorem join_eq {base name : String} (hbase : IsBase base) (hname : name.toList.head? ≠ some '/') :
    join base name = base ++ "/" ++ name := by
  -- An absolute name would replace the base, and an empty base would vanish.
  have hstays : ¬ (name.toList.head? == some '/' || base.isEmpty) = true := by
    simp [hname, hbase.nonempty]
  rw [join, if_neg hstays, if_neg (by simpa using hbase.notOpen)]

/-- A base and a step are joined by a slash, told by their characters. -/
theorem toList_join {base name : String} (hbase : IsBase base)
    (hname : name.toList.head? ≠ some '/') :
    (join base name).toList = base.toList ++ '/' :: name.toList := by
  rw [join_eq hbase hname]
  simp

/-- The steps of a path below a base. -/
theorem stepsOf_join {base name : String} (hbase : IsBase base) (hname : IsStep name) :
    stepsOf (join base name) = stepsOf base ++ [name] := by
  have hsplit : name.toList.splitOnP (· == '/') = [name.toList] := by
    apply List.splitOnP_eq_singleton
    intro c hc
    have hne : c ≠ '/' := fun heq => hname.notSlash (heq ▸ hc)
    simpa using hne
  have hfull : name.toList.isEmpty = false := by
    simpa using hname.nonempty
  rw [stepsOf, toList_join hbase hname.head, List.splitOnP_append_cons _ _ (by simp), hsplit,
    List.filter_append, List.map_append, stepsOf]
  simp [hfull]

/-! ### Detours -/

/-- A path with steps in front of it that lead to where they start. -/
def detour : Nat → String → String
  | 0, path => path
  | n + 1, path => "./" ++ detour n path

/-- A detour is made in front of whatever follows. -/
theorem detour_append (n : Nat) (path more : String) :
    detour n path ++ more = detour n (path ++ more) := by
  induction n with
  | zero => rfl
  | succ n ih => rw [detour, String.append_assoc, ih, detour]

/-- Each step of a detour takes two bytes. -/
theorem size_detour (n : Nat) (path : String) :
    (detour n path).utf8ByteSize = 2 * n + path.utf8ByteSize := by
  induction n with
  | zero => simp [detour]
  | succ n ih =>
    have htwo : "./".utf8ByteSize = 2 := rfl
    rw [detour, String.utf8ByteSize_append, ih, htwo]
    omega

/-- A path that starts where the working directory is. -/
theorem isBase_here {path : String} (h : IsBase path) : IsBase ("./" ++ path) := by
  have hne : path.toList ≠ [] := by simpa using h.nonempty
  refine ⟨by simp, ?_⟩
  rw [String.toList_append, List.getLast?_append_of_ne_nil _ hne]
  exact h.notOpen

/-- A base stays one with a detour in front. -/
theorem isBase_detour (n : Nat) {path : String} (h : IsBase path) : IsBase (detour n path) := by
  induction n with
  | zero => exact h
  | succ n ih => exact isBase_here ih

/-- A path with a step to where it starts is relative. -/
theorem head_here (path : String) : ("./" ++ path).toList.head? ≠ some '/' := by
  rw [String.toList_append, List.head?_append_of_ne_nil _ (by decide)]
  decide

/-- A detour in front of a relative path keeps it relative. -/
theorem head_detour (n : Nat) {path : String} (h : path.toList.head? ≠ some '/') :
    (detour n path).toList.head? ≠ some '/' := by
  cases n with
  | zero => exact h
  | succ n => exact head_here _

/-- A step to where a path starts is its first step. -/
theorem stepsOf_here (path : String) : stepsOf ("./" ++ path) = "." :: stepsOf path := by
  have hsplit : ("./" ++ path).toList.splitOnP (· == '/')
      = ['.'] :: path.toList.splitOnP (· == '/') := by
    have htext : ("./" ++ path).toList = ['.'] ++ '/' :: path.toList := String.toList_append
    rw [htext, List.splitOnP_append_cons _ _ (by decide)]
    rfl
  rw [stepsOf, hsplit, stepsOf]
  rfl

/-- The route of a path that is neither absolute nor too long. -/
theorem route_of_base {path : String} (hbase : IsBase path)
    (hhead : path.toList.head? ≠ some '/') (hsize : path.utf8ByteSize ≤ longestPath) :
    Route.of? path = if path.toList.any (·.toNat == 0) then .error .nulByte
      else .ok ⟨false, stepsOf path, false⟩ := by
  have hopen : (path.toList.getLast? == some '/') = false := by simpa using hbase.notOpen
  have hstart : (path.toList.head? == some '/') = false := by simpa using hhead
  unfold Route.of?
  split
  · rfl
  · rw [if_neg (by simpa using hbase.nonempty), if_neg (by omega)]
    simp only [hopen, hstart, Bool.false_and]

end Path

namespace FileTree

/-! ### Nodes -/

/-- Of a list of places, one is set and the others stay. -/
theorem lookup_set (place other : Place) (node : FileNode) (nodes : List (Place × FileNode)) :
    (setNode.set place node nodes).lookup other
      = if other = place then some node else nodes.lookup other := by
  induction nodes with
  | nil => by_cases h : other = place <;> simp [setNode.set, h]
  | cons pair nodes ih =>
    obtain ⟨p, n⟩ := pair
    rw [setNode.set]
    by_cases hp : p = place
    · subst hp
      by_cases h : other = p
      · simp [h]
      · simp [List.lookup_cons, h, show (other == p) = false by simpa using h]
    · rw [if_neg (by simpa using hp), List.lookup_cons, List.lookup_cons, ih]
      by_cases h : other = p
      · simp [h, hp]
      · simp [show (other == p) = false by simpa using h]

/-- In a tree, what has been set is there and everything else as before, unless the place is one of
    the bases, where there is always a directory. -/
theorem node_setNode {t : FileTree} {place : Place} (hplace : isBase place = false)
    (node : FileNode) (other : Place) :
    (t.setNode place node).node? other = if other = place then some node else t.node? other := by
  unfold node?
  by_cases hother : isBase other = true
  · have hne : other ≠ place := by
      rintro rfl
      rw [hplace] at hother
      cases hother
    simp [hother, hne]
  · simp only [hother, Bool.false_eq_true, if_false]
    exact lookup_set place other node t.nodes

/-- What has been set is there. -/
theorem mem_set (place : Place) (node : FileNode) (nodes : List (Place × FileNode)) :
    (place, node) ∈ setNode.set place node nodes := by
  induction nodes with
  | nil => simp [setNode.set]
  | cons pair nodes ih =>
    rw [setNode.set]
    split
    · simp
    · exact List.mem_cons_of_mem _ ih

/-! ### Ways -/

/-- The place that one step leads to from a directory. -/
def advance (place : Place) (step : String) : Except FileError Place :=
  if step == "." then .ok place
  else if step == ".." then .ok (above place)
  else if Path.longestStep < step.utf8ByteSize then .error .nameTooLong
  else .ok (place ++ [step])

/-- A way goes step by step, each from a directory. -/
theorem walk_cons_eq_ok {t : FileTree} {start finish : Place} {step : String}
    {steps : List String} :
    t.walk start (step :: steps) = .ok finish ↔ t.node? start = some .directory
      ∧ ∃ next, advance start step = .ok next ∧ t.walk next steps = .ok finish := by
  rw [walk]
  cases hstart : t.node? start with
  | none => simp
  | some node =>
    cases node with
    | file content time => simp
    | directory =>
      unfold advance
      dsimp only
      repeat' split
      all_goals simp

/-- Every place on the way is a directory, so that a change elsewhere does not matter. -/
theorem walk_setNode {t : FileTree} {place : Place} (hplace : isBase place = false)
    (hnode : t.node? place ≠ some .directory) (node : FileNode) {steps : List String}
    {start finish : Place} (h : t.walk start steps = .ok finish) :
    (t.setNode place node).walk start steps = .ok finish := by
  induction steps generalizing start with
  | nil => exact h
  | cons step steps ih =>
    obtain ⟨hstart, next, hadvance, hrest⟩ := walk_cons_eq_ok.mp h
    -- the way stands in a directory here, and the changed place is none
    have hne : start ≠ place := by
      rintro rfl
      exact hnode hstart
    refine walk_cons_eq_ok.mpr ⟨?_, next, hadvance, ih hrest⟩
    rw [node_setNode hplace, if_neg hne, hstart]

/-- A way that ends with a name goes through a directory that holds the name. -/
theorem walk_step {t : FileTree} {steps : List String} {name : String} (hname : Path.IsStep name)
    {start finish : Place} (h : t.walk start (steps ++ [name]) = .ok finish) :
    ∃ directory, t.walk start steps = .ok directory ∧ t.node? directory = some .directory
      ∧ finish = directory ++ [name] := by
  induction steps generalizing start with
  | nil =>
    obtain ⟨hstart, next, hadvance, hrest⟩ := walk_cons_eq_ok.mp h
    -- The name is neither `.` nor `..`, so the way goes down by it.
    rw [advance, if_neg (by simpa using hname.notHere), if_neg (by simpa using hname.notAbove)]
      at hadvance
    split at hadvance
    · cases hadvance
    · cases hadvance
      exact ⟨start, rfl, hstart, (Except.ok.inj hrest).symm⟩
  | cons step steps ih =>
    obtain ⟨hstart, next, hadvance, hrest⟩ := walk_cons_eq_ok.mp h
    obtain ⟨directory, hwalk, hdirectory, hfinish⟩ := ih hrest
    exact ⟨directory, walk_cons_eq_ok.mpr ⟨hstart, next, hadvance, hwalk⟩, hdirectory, hfinish⟩

/-! ### Files below a directory -/

/-- A place with a name on its way is none of those that are always there. -/
theorem isBase_below {name : String} (hname : Path.IsStep name) (place rest : Place) :
    isBase (place ++ name :: rest) = false := by
  have hslash : name ≠ "/" := by
    rintro rfl
    exact hname.notSlash (by decide)
  induction place with
  | nil => simp [isBase, hname.notAbove, hslash]
  | cons step place ih =>
    rw [List.cons_append, isBase, ih, Bool.and_false]
    intro _ hnil
    simp at hnil

/-- No place one step below a directory is a base. -/
theorem isBase_step {name : String} (hname : Path.IsStep name) (directory : Place) :
    isBase (directory ++ [name]) = false := isBase_below hname directory []

/-- The route to a name below a base is the route of the base with one step more. -/
theorem route_join {base name : String} (hbase : Path.IsBase base) (hname : Path.IsStep name)
    {route : Path.Route} (h : Path.Route.of? (Path.join base name) = .ok route) :
    route = ⟨base.toList.head? == some '/', Path.stepsOf base ++ [name], false⟩
      ∧ Path.Route.of? base = .ok ⟨base.toList.head? == some '/', Path.stepsOf base, false⟩ := by
  have htext := Path.toList_join hbase hname.head
  have hhead : (Path.join base name).toList.head? = base.toList.head? := by
    have hne : base.toList ≠ [] := by simpa using hbase.nonempty
    rw [htext, List.head?_append_of_ne_nil _ hne]
  have hlast : (Path.join base name).toList.getLast? ≠ some '/' := by
    have hne : name.toList ≠ [] := by simpa using hname.nonempty
    have hlast : (Path.join base name).toList.getLast? = name.toList.getLast? := by
      rw [htext, List.getLast?_append_of_ne_nil _ (by simp), List.getLast?_cons_of_ne_nil hne]
    rw [hlast]
    exact hname.last
  -- Paths have a longest length, which the base does not exceed when the longer one does not.
  have hshort : base.utf8ByteSize ≤ (Path.join base name).utf8ByteSize := by
    rw [Path.join_eq hbase hname.head, String.utf8ByteSize_append, String.utf8ByteSize_append]
    omega
  unfold Path.Route.of? at h ⊢
  split at h
  · cases h
  · rename_i hnul
    split at h
    · cases h
    · split at h
      · cases h
      · rename_i hlong
        have hnul' : ¬ (base.toList.any (·.toNat == 0)) = true := by
          intro hany
          apply hnul
          rw [htext, List.any_append, hany, Bool.true_or]
        have hopen : (base.toList.getLast? == some '/') = false := by simpa using hbase.notOpen
        have hopen' : ((Path.join base name).toList.getLast? == some '/') = false := by
          simpa using hlast
        rw [if_neg hnul', if_neg (by simpa using hbase.nonempty), if_neg (by omega)]
        dsimp only at h ⊢
        rw [hopen', hhead, Path.stepsOf_join hbase hname] at h
        rw [hopen]
        exact ⟨(Except.ok.inj h).symm, rfl⟩

/-- A path to a place that a step adds to that of a directory. -/
theorem locate_below {t : FileTree} {base name : String} (hbase : Path.IsBase base)
    (hname : Path.IsStep name) {place : Place} (h : t.locate (Path.join base name) = .ok place) :
    ∃ directory, t.locate base = .ok directory ∧ t.node? directory = some .directory
      ∧ place = directory ++ [name] := by
  obtain ⟨route, hroute, hwalk⟩ := Except.bind_eq_ok.mp h
  obtain ⟨rfl, hroute'⟩ := route_join hbase hname hroute
  unfold locate
  rw [hroute']
  exact walk_step hname hwalk

/-- Where a file is written, it can be found. -/
theorem locateForWriting_ok {t : FileTree} {path : String} {place : Place}
    (h : t.locateForWriting path = .ok place) :
    t.locate path = .ok place ∧ t.node? place ≠ some .directory := by
  obtain ⟨route, hroute, h⟩ := Except.bind_eq_ok.mp h
  obtain ⟨found, hwalk, h⟩ := Except.bind_eq_ok.mp h
  split at h
  · cases h
  · rename_i hopen
    split at h
    · cases h
    · rename_i hnode
      obtain rfl := Except.ok.inj h
      refine ⟨?_, hnode⟩
      rw [locate, Except.bind_eq_ok]
      exact ⟨route, hroute, by rw [if_neg hopen, hwalk]⟩

/-- A path leads to what is at its place. -/
theorem find_of_locate {t : FileTree} {path : String} {place : Place} {node : FileNode}
    (hlocate : t.locate path = .ok place) (hnode : t.node? place = some node) :
    t.find path = .ok node := by
  unfold find
  simp only [hlocate, bind, Except.bind, hnode]

/-- A file that holds the bytes of a text is read as that text. -/
theorem readText_of_find {t : FileTree} {path text : String} {time : Int}
    (h : t.find path = .ok (.file text.toUTF8 time)) : t.readText path = .ok text := by
  have hread : t.read path = .ok text.toUTF8 := by
    rw [read, h]
    rfl
  unfold readText
  simp only [hread, bind, Except.bind, Text.ofUtf8_toUTF8]

/-- A path that leads to a directory gives its entries. -/
theorem entries_of_locate {t : FileTree} {path : String} {place : Place}
    (hlocate : t.locate path = .ok place) (hnode : t.node? place = some .directory) :
    t.entries path = .ok (t.entriesAt place) := by
  unfold entries
  simp only [hlocate, bind, Except.bind, hnode]

/-- No way that went through before goes through what has been put at a place, unless that was a
    directory. -/
theorem locate_setNode {t : FileTree} {place : Place} (hplace : isBase place = false)
    (hnode : t.node? place ≠ some .directory) (node : FileNode) {path : String} {found : Place}
    (h : t.locate path = .ok found) : (t.setNode place node).locate path = .ok found := by
  obtain ⟨route, hroute, hwalk⟩ := Except.bind_eq_ok.mp h
  rw [locate, Except.bind_eq_ok]
  exact ⟨route, hroute, walk_setNode hplace hnode _ hwalk⟩

/-- A place that is no directory is none of those that are always there. -/
theorem isBase_of_node {t : FileTree} {place : Place} (h : t.node? place ≠ some .directory) :
    isBase place = false := by
  rw [← Bool.not_eq_true]
  intro hbase
  exact h (if_pos hbase)

/-- What has been written can be read. -/
theorem find_write {t t' : FileTree} {path : String} {content : ByteArray}
    (h : t.write path content = .ok t') : t'.find path = .ok (.file content t.clock) := by
  obtain ⟨place, hlocate, hset⟩ := Except.bind_eq_ok.mp h
  obtain rfl := Except.ok.inj hset
  obtain ⟨hlocate, hnode⟩ := locateForWriting_ok hlocate
  have hplace := isBase_of_node hnode
  apply find_of_locate (locate_setNode hplace hnode _ hlocate)
  rw [node_setNode hplace, if_pos rfl]

/-- **Writing below a directory.** A file that has been written below a directory can be read, and
    is listed with the time of the writing. -/
theorem write_below {t t' : FileTree} {base name : String} (hbase : Path.IsBase base)
    (hname : Path.IsStep name) {content : ByteArray}
    (h : t.write (Path.join base name) content = .ok t') :
    t'.find (Path.join base name) = .ok (.file content t.clock)
      ∧ ∃ entries, t'.entries base = .ok entries ∧ (name, .file content t.clock) ∈ entries := by
  obtain ⟨place, hlocate, hset⟩ := Except.bind_eq_ok.mp h
  obtain rfl := Except.ok.inj hset
  obtain ⟨hlocate, hnode⟩ := locateForWriting_ok hlocate
  obtain ⟨directory, hbelow, hdirectory, rfl⟩ := locate_below hbase hname hlocate
  have hplace := isBase_step hname directory
  -- The directory itself is still one: the file is put at another place.
  have hne : directory ≠ directory ++ [name] := by
    intro heq
    simpa using congrArg List.length heq
  refine ⟨find_write h, (t.setNode (directory ++ [name]) (.file content t.clock)).entriesAt
    directory, ?_, ?_⟩
  · apply entries_of_locate (locate_setNode hplace hnode _ hbelow)
    rw [node_setNode hplace, if_neg hne, hdirectory]
  · refine List.mem_filterMap.mpr ⟨_, mem_set (directory ++ [name]) _ t.nodes, ?_⟩
    simp

/-! ### Long paths -/

/-- A step that leads to where it starts changes nothing but the length of a path. -/
theorem locate_here {t : FileTree} {path : String} (hbase : Path.IsBase path)
    (hhead : path.toList.head? ≠ some '/') (hsize : 2 + path.utf8ByteSize ≤ Path.longestPath) :
    t.locate ("./" ++ path) = t.locate path := by
  have hnul : ("./" ++ path).toList.any (·.toNat == 0) = path.toList.any (·.toNat == 0) := by
    rw [String.toList_append, List.any_append]
    rfl
  have hsize' : ("./" ++ path).utf8ByteSize ≤ Path.longestPath := by
    rw [String.utf8ByteSize_append]
    exact hsize
  rw [locate, locate, Path.route_of_base hbase hhead (by omega),
    Path.route_of_base (Path.isBase_here hbase) (Path.head_here path) hsize', hnul,
    Path.stepsOf_here]
  split <;> rfl

/-- A detour leads to the same place as long as the path is not too long with it. -/
theorem locate_detour {t : FileTree} {n : Nat} {path : String} (hbase : Path.IsBase path)
    (hhead : path.toList.head? ≠ some '/')
    (hsize : 2 * n + path.utf8ByteSize ≤ Path.longestPath) :
    t.locate (Path.detour n path) = t.locate path := by
  induction n with
  | zero => rfl
  | succ n ih =>
    rw [Path.detour, locate_here (Path.isBase_detour n hbase) (Path.head_detour n hhead), ih]
    · omega
    · rw [Path.size_detour]
      omega

/-- A path that is too long leads nowhere. -/
theorem isFile_of_long {t : FileTree} {path : String}
    (h : Path.longestPath < path.utf8ByteSize) : t.isFile path = false := by
  obtain ⟨e, hroute⟩ : ∃ e, Path.Route.of? path = .error e := by
    unfold Path.Route.of?
    split
    · exact ⟨_, rfl⟩
    · split
      · exact ⟨_, rfl⟩
      · exact ⟨_, rfl⟩
  have hfind : t.find path = .error e := by
    rw [find, locate, hroute]
    rfl
  rw [isFile, hfind]

end FileTree

end Questionnaire
