import Questionnaire.Proofs.FileTree

namespace Questionnaire

/-!
# What file operations leave alone

* `FileTree.file?` — the file at a place, which is all that a change of other files leaves alone.
* `FileTree.AddsDirectories` — directories have been made, and nothing else has happened.
* `FileTree.addsDirectories_makeDirectories` — making directories does nothing else, even if it
  fails on the way.
* `FileTree.write_eq_ok` — writing puts one file at the place that the path leads to;
  `FileTree.Writes` says so without the place.
-/

/-- The content and the time of a file. -/
def FileNode.file? : FileNode → Option (ByteArray × Int)
  | .file content time => some (content, time)
  | .directory => none

namespace FileTree

variable {t t' t'' : FileTree} {place : Place}

/-! ### Files -/

/-- The content and the time of the file at a place, if there is one. -/
def file? (t : FileTree) (place : Place) : Option (ByteArray × Int) :=
  (t.node? place).bind FileNode.file?

/-- The file that is set is there, and the others stay. -/
theorem file_setNode (hplace : isBase place = false) (node : FileNode) (other : Place) :
    (t.setNode place node).file? other = if other = place then node.file? else t.file? other := by
  unfold file?
  rw [node_setNode hplace]
  split <;> rfl

/-- A place with a file holds it. -/
theorem node_of_file {content : ByteArray} {time : Int} (h : t.file? place = some (content, time)) :
    t.node? place = some (.file content time) := by
  obtain ⟨node, hnode, hfile⟩ := Option.bind_eq_some_iff.mp h
  cases node with
  | directory => cases hfile
  | file content' time' =>
    obtain ⟨rfl, rfl⟩ := Prod.mk.inj (Option.some.inj hfile)
    exact hnode

/-- What has been read is the content of a file. -/
theorem file_of_read {path : String} {content : ByteArray} (h : t.read path = .ok content) :
    ∃ place time, t.locate path = .ok place ∧ t.file? place = some (content, time) := by
  obtain ⟨node, hfind, hcontent⟩ := Except.bind_eq_ok.mp h
  obtain ⟨place, hlocate, hnode⟩ := Except.bind_eq_ok.mp hfind
  cases node with
  | directory => cases hcontent
  | file content' time =>
    obtain rfl := Except.ok.inj hcontent
    split at hnode
    · rename_i found hfound
      obtain rfl := Except.ok.inj hnode
      exact ⟨place, time, hlocate, by rw [file?, hfound]; rfl⟩
    · cases hnode

/-- A text that has been read is in a file. -/
theorem file_of_readText {path text : String} (h : t.readText path = .ok text) :
    ∃ place file, t.locate path = .ok place ∧ t.file? place = some file := by
  obtain ⟨content, hread, -⟩ := Except.bind_eq_ok.mp h
  obtain ⟨place, time, hlocate, hfile⟩ := file_of_read hread
  exact ⟨place, (content, time), hlocate, hfile⟩

/-! ### Ways -/

/-- A way stays open as long as the directories on it stay. -/
theorem walk_of_directories
    (h : ∀ place, t.node? place = some .directory → t'.node? place = some .directory)
    {steps : List String} {start finish : Place} (hwalk : t.walk start steps = .ok finish) :
    t'.walk start steps = .ok finish := by
  induction steps generalizing start with
  | nil => exact hwalk
  | cons step steps ih =>
    obtain ⟨hstart, next, hadvance, hrest⟩ := walk_cons_eq_ok.mp hwalk
    exact walk_cons_eq_ok.mpr ⟨h start hstart, next, hadvance, ih hrest⟩

/-- A path leads to the same place where the same directories are, and maybe more. -/
theorem locate_of_directories
    (h : ∀ place, t.node? place = some .directory → t'.node? place = some .directory)
    {path : String} (hlocate : t.locate path = .ok place) : t'.locate path = .ok place := by
  obtain ⟨route, hroute, hwalk⟩ := Except.bind_eq_ok.mp hlocate
  rw [locate, Except.bind_eq_ok]
  exact ⟨route, hroute, walk_of_directories h hwalk⟩

/-- What is put where there is no directory leaves all directories. -/
theorem directory_setNode (hnode : t.node? place ≠ some .directory) (node : FileNode)
    (other : Place) (h : t.node? other = some .directory) :
    (t.setNode place node).node? other = some .directory := by
  have hne : other ≠ place := by
    rintro rfl
    exact hnode h
  rw [node_setNode (isBase_of_node hnode), if_neg hne, h]

/-! ### New directories -/

/-- From one tree to another, directories have been made where there was nothing. -/
inductive AddsDirectories (t : FileTree) : FileTree → Prop
  | refl : AddsDirectories t t
  | made {t' : FileTree} {place : Place} (h : AddsDirectories t t')
      (hnone : t'.node? place = none) : AddsDirectories t (t'.setNode place .directory)

/-- Directories are added in two steps as in one. -/
theorem AddsDirectories.trans (h : t.AddsDirectories t') (h' : t'.AddsDirectories t'') :
    t.AddsDirectories t'' := by
  induction h' with
  | refl => exact h
  | made _ hnone ih => exact .made ih hnone

/-- No file is made, changed or taken away. -/
theorem AddsDirectories.file_eq (h : t.AddsDirectories t') (place : Place) :
    t'.file? place = t.file? place := by
  induction h with
  | refl => rfl
  | @made u new _ hnone ih =>
    have hplace : isBase new = false := isBase_of_node (t := u) (by simp [hnone])
    rw [file_setNode hplace]
    split
    · rename_i heq
      -- there was no file where the directory is now
      rw [← ih, heq, file?, hnone]
      rfl
    · exact ih

/-- Directories that were there are still there. -/
theorem AddsDirectories.directory (h : t.AddsDirectories t') (place : Place)
    (hnode : t.node? place = some .directory) : t'.node? place = some .directory := by
  induction h with
  | refl => exact hnode
  | made _ hnone ih => exact directory_setNode (by simp [hnone]) _ _ ih

/-- Adding directories does not move the clock. -/
theorem AddsDirectories.clock_eq (h : t.AddsDirectories t') : t'.clock = t.clock := by
  induction h with
  | refl => rfl
  | made _ _ ih => exact ih

/-- Making a directory adds one at most. -/
theorem addsDirectories_makeDirectoryAt {start : Place} {steps : List String}
    (h : t.makeDirectoryAt start steps = .ok t') : t.AddsDirectories t' := by
  obtain ⟨place, -, h⟩ := Except.bind_eq_ok.mp h
  split at h
  · cases h
  · rename_i hnone
    obtain rfl := Except.ok.inj h
    exact .made .refl hnone

/-- Making several adds them one by one. -/
theorem addsDirectories_makeDirectoriesAt (t : FileTree) (start : Place) (back : List String) :
    t.AddsDirectories (t.makeDirectoriesAt start back).2 := by
  induction back generalizing t with
  | nil => exact .refl
  | cons step above ih =>
    rw [makeDirectoriesAt]
    split
    · rename_i made hmade
      exact addsDirectories_makeDirectoryAt hmade
    · -- The directory above was missing; what has been made of it stays.
      have habove := ih t
      split
      · rename_i e made hmade
        rw [hmade] at habove
        exact habove
      · rename_i made hmade
        rw [hmade] at habove
        split
        · rename_i more hmore
          exact habove.trans (addsDirectories_makeDirectoryAt hmore)
        · exact habove
    · exact .refl

/-- Making directories does nothing else, even if it fails on the way. -/
theorem addsDirectories_makeDirectories (t : FileTree) (path : String) :
    t.AddsDirectories (t.makeDirectories path).2 := by
  unfold makeDirectories
  split
  · exact .refl
  · split
    · exact .refl
    · exact addsDirectories_makeDirectoriesAt t _ _

/-! ### Writing -/

/-- Writing puts one file at the place that the path leads to. -/
theorem write_eq_ok {path : String} {content : ByteArray} (h : t.write path content = .ok t') :
    ∃ place, t.locate path = .ok place ∧ t.node? place ≠ some .directory
      ∧ t' = t.setNode place (.file content t.clock) := by
  obtain ⟨place, hplace, hset⟩ := Except.bind_eq_ok.mp h
  obtain ⟨hlocate, hnode⟩ := locateForWriting_ok hplace
  exact ⟨place, hlocate, hnode, (Except.ok.inj hset).symm⟩

/-- From one tree to another, the file that a path leads to has been given a text, and all other
    places are as they were. -/
def Writes (t : FileTree) (path text : String) (t' : FileTree) : Prop :=
  t'.readText path = .ok text ∧ ∃ place, t.locate path = .ok place
    ∧ ∀ other, other ≠ place → t'.node? other = t.node? other

/-- A text that has been written is all that is new. -/
theorem writes_of_write {path text : String} (h : t.write path text.toUTF8 = .ok t') :
    t.Writes path text t' := by
  refine ⟨readText_of_find (find_write h), ?_⟩
  obtain ⟨place, hlocate, hnode, rfl⟩ := write_eq_ok h
  refine ⟨place, hlocate, fun other hother => ?_⟩
  rw [node_setNode (isBase_of_node hnode), if_neg hother]

end FileTree

end Questionnaire
