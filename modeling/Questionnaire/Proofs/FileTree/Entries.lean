import Questionnaire.Proofs.FileTree.Frame

namespace Questionnaire.FileTree

/-!
# What is in a directory

* `Distinct` — each name stands once in a directory, so that what is listed is what is there
  (`mem_entriesAt`).
* `Alters` — one file has been changed, and apart from that at most directories have been made.
* `touch_eq_ok`, `remove_eq_ok` — setting the time of a file and removing one do this.
-/

variable {t t' t'' : FileTree} {place other : Place}

/-! ### Names -/

/-- No name stands twice in the directory at a place. -/
def Distinct (t : FileTree) (directory : Place) : Prop :=
  (t.nodes.map (·.1)).Pairwise fun place other =>
    ∀ name, place = directory ++ [name] → other ≠ directory ++ [name]

/-- Setting a place brings it in once. -/
theorem places_set (place : Place) (node : FileNode) (nodes : List (Place × FileNode)) :
    (setNode.set place node nodes).map (·.1)
      = if place ∈ nodes.map (·.1) then nodes.map (·.1) else nodes.map (·.1) ++ [place] := by
  induction nodes with
  | nil => rfl
  | cons pair nodes ih =>
    obtain ⟨p, n⟩ := pair
    rw [setNode.set]
    by_cases hp : p = place
    · simp [hp]
    · have hne : place ≠ p := Ne.symm hp
      rw [if_neg (by simpa using hp), List.map_cons, ih]
      by_cases hmem : place ∈ nodes.map (·.1) <;> simp_all

/-- Setting a place brings no name into a directory twice. -/
theorem Distinct.setNode {directory : Place} (h : t.Distinct directory) (place : Place)
    (node : FileNode) : (t.setNode place node).Distinct directory := by
  unfold Distinct at h ⊢
  show ((setNode.set place node t.nodes).map (·.1)).Pairwise _
  rw [places_set]
  split
  · exact h
  · rename_i hnew
    refine List.pairwise_append.mpr ⟨h, List.pairwise_singleton _ _, ?_⟩
    rintro old hold _ hmem name rfl heq
    rw [← heq, List.mem_singleton.mp hmem] at hold
    exact hnew hold

/-- Dropping a place leaves no name in a directory twice. -/
theorem Distinct.dropNode {directory : Place} (h : t.Distinct directory) (place : Place) :
    (t.dropNode place).Distinct directory :=
  List.Pairwise.sublist (List.filter_sublist.map _) h

/-- Adding directories brings no name into a directory twice. -/
theorem AddsDirectories.distinct {directory : Place} (h : t.AddsDirectories t')
    (hdistinct : t.Distinct directory) : t'.Distinct directory := by
  induction h with
  | refl => exact hdistinct
  | made _ _ ih => exact ih.setNode _ _

/-- A directory in which nothing is has no name twice. -/
theorem distinct_of_empty {directory : Place}
    (h : ∀ pair ∈ t.nodes, ∀ name, pair.1 ≠ directory ++ [name]) : t.Distinct directory := by
  apply List.pairwise_of_forall_mem_list
  intro place hplace _ _ name heq
  obtain ⟨pair, hpair, rfl⟩ := List.mem_map.mp hplace
  exact absurd heq (h pair hpair name)

/-- What is listed of a node: its name, if it is in the directory. -/
theorem entry_eq_some {p : Place} {node found : FileNode} {name : String} :
    (match p.getLast? with
      | some last => if p.dropLast == place then some (last, node) else none
      | none => none) = some (name, found) ↔ p = place ++ [name] ∧ node = found := by
  -- A place lies directly below another one if only its last name is missing there.
  constructor
  · intro h
    cases hlast : p.getLast? with
    | none =>
      rw [hlast] at h
      cases h
    | some last =>
      rw [hlast] at h
      dsimp only at h
      split at h
      · rename_i hbelow
        obtain ⟨rfl, rfl⟩ := Prod.mk.inj (Option.some.inj h)
        exact ⟨by rw [← beq_iff_eq.mp hbelow, List.dropLast_append_getLast? _ hlast], rfl⟩
      · cases h
  · rintro ⟨rfl, rfl⟩
    simp

/-- Where each name stands once, it is listed once. -/
theorem Distinct.entriesAt (h : t.Distinct place) :
    (t.entriesAt place).Pairwise fun a b => a.1 ≠ b.1 := by
  rw [FileTree.entriesAt, List.pairwise_filterMap]
  refine (List.pairwise_map.mp h).imp ?_
  rintro ⟨p, node⟩ ⟨q, node'⟩ hne ⟨name, found⟩ ha ⟨name', found'⟩ hb heq
  obtain ⟨rfl, -⟩ := entry_eq_some.mp ha
  obtain ⟨rfl, -⟩ := entry_eq_some.mp hb
  exact hne name rfl (by rw [show name = name' from heq])

/-- Where each name stands once, what is listed is what is there. -/
theorem mem_entriesAt {name : String} {node : FileNode} (hdistinct : t.Distinct place)
    (hbase : isBase (place ++ [name]) = false) :
    (name, node) ∈ t.entriesAt place ↔ t.node? (place ++ [name]) = some node := by
  have hmem : (name, node) ∈ t.entriesAt place ↔ (place ++ [name], node) ∈ t.nodes := by
    rw [entriesAt, List.mem_filterMap]
    constructor
    · rintro ⟨⟨p, found⟩, hmem, hentry⟩
      obtain ⟨rfl, rfl⟩ := entry_eq_some.mp hentry
      exact hmem
    · exact fun hmem => ⟨_, hmem, entry_eq_some.mpr ⟨rfl, rfl⟩⟩
  rw [hmem, node?, if_neg (by simp [hbase])]
  unfold Distinct at hdistinct
  generalize t.nodes = nodes at hdistinct
  induction nodes with
  | nil => simp
  | cons pair nodes ih =>
    obtain ⟨p, n⟩ := pair
    obtain ⟨hfirst, hrest⟩ := List.pairwise_cons.mp hdistinct
    rw [List.lookup_cons]
    by_cases hp : place ++ [name] = p
    · subst hp
      -- another node at this place would stand in the rest
      have hno : (place ++ [name], node) ∉ nodes := fun hmem =>
        hfirst _ (List.mem_map_of_mem (f := (·.1)) hmem) name rfl rfl
      simp [hno, eq_comm]
    · simp [hp, ih hrest, show (place ++ [name] == p) = false by simpa using hp]

/-! ### Changes of one file -/

/-- A place that is dropped is empty, and the others stay. -/
theorem node_dropNode (hplace : isBase place = false) (other : Place) :
    (t.dropNode place).node? other = if other = place then none else t.node? other := by
  unfold node?
  by_cases hother : isBase other = true
  · have hne : other ≠ place := by
      rintro rfl
      rw [hplace] at hother
      cases hother
    simp [hother, hne]
  · simp only [hother, Bool.false_eq_true, if_false, dropNode]
    -- The induction is on the nodes; dropping the place leaves the first node of every other one.
    induction t.nodes with
    | nil => simp
    | cons pair nodes ih =>
      obtain ⟨p, n⟩ := pair
      by_cases hp : p = place
      · subst hp
        rw [List.filter_cons_of_neg (by simp), ih, List.lookup_cons]
        by_cases h : other = p
        · simp [h]
        · simp [h, show (other == p) = false by simpa using h]
      · rw [List.filter_cons_of_pos (by simpa using hp), List.lookup_cons, List.lookup_cons, ih]
        by_cases h : other = p
        · simp [h, hp]
        · simp [show (other == p) = false by simpa using h]

/-- The file at one place may have been changed.  Directories may have been made, and nothing else
    has happened. -/
structure Alters (place : Place) (t t' : FileTree) : Prop where
  directory : ∀ other, t.node? other = some .directory → t'.node? other = some .directory
  file : ∀ other, other ≠ place → t'.file? other = t.file? other
  distinct : ∀ directory, t.Distinct directory → t'.Distinct directory

/-- Adding directories does not alter what else there is. -/
theorem AddsDirectories.alters (h : t.AddsDirectories t') (place : Place) : Alters place t t' :=
  ⟨h.directory, fun other _ => h.file_eq other, fun _ => h.distinct⟩

/-- Altering a place twice alters no other. -/
theorem Alters.trans (h : Alters place t t') (h' : Alters place t' t'') : Alters place t t'' where
  directory other hother := h'.directory other (h.directory other hother)
  file other hne := (h'.file other hne).trans (h.file other hne)
  distinct directory hdistinct := h'.distinct directory (h.distinct directory hdistinct)

/-- Setting a file alters its place only. -/
theorem alters_setNode (hnode : t.node? place ≠ some .directory) (content : ByteArray)
    (time : Int) : Alters place t (t.setNode place (.file content time)) where
  directory := directory_setNode hnode _
  file other hne := by rw [file_setNode (isBase_of_node hnode), if_neg hne]
  distinct _ h := h.setNode _ _

/-- Dropping a file alters its place only. -/
theorem alters_dropNode (hnode : t.node? place ≠ some .directory) :
    Alters place t (t.dropNode place) where
  directory other hother := by
    have hne : other ≠ place := by
      rintro rfl
      exact hnode hother
    rw [node_dropNode (isBase_of_node hnode), if_neg hne, hother]
  file other hne := by rw [file?, node_dropNode (isBase_of_node hnode), if_neg hne, file?]
  distinct _ h := h.dropNode _

/-- Changing the time of what a path leads to alters one file, if it is one. -/
theorem touch_eq_ok {path : String} {time : Int} (h : t.touch path time = .ok t') :
    ∃ place, t.locate path = .ok place ∧ Alters place t t'
      ∧ t'.file? place = (t.file? place).map fun file => (file.1, time) := by
  obtain ⟨place, hlocate, h⟩ := Except.bind_eq_ok.mp h
  refine ⟨place, hlocate, ?_⟩
  split at h
  · rename_i content old hnode
    cases h
    have hfile : t.node? place ≠ some .directory := by simp [hnode]
    refine ⟨alters_setNode hfile content time, ?_⟩
    rw [file_setNode (isBase_of_node hfile), if_pos rfl, file?, hnode]
    rfl
  · rename_i hnode
    cases h
    refine ⟨AddsDirectories.refl.alters place, ?_⟩
    rw [file?, hnode]
    rfl
  · cases h

/-- Removing a file alters its place only. -/
theorem remove_eq_ok {path : String} (h : t.remove path = .ok t') :
    ∃ place, t.locate path = .ok place ∧ Alters place t t' := by
  obtain ⟨place, hlocate, h⟩ := Except.bind_eq_ok.mp h
  split at h
  · rename_i hnode
    cases h
    exact ⟨place, hlocate, alters_dropNode (by simp [hnode])⟩
  · cases h
  · cases h

end Questionnaire.FileTree
