import Questionnaire.Proofs.FileTree

namespace Questionnaire

/-!
# File trees but for the content of a file

What a file holds matters only where the file is read.  Blanking the content at a place leaves a
tree for which every other operation does the same.

* `FileTree.blank` — the tree whose file at a place has no content.
* `FileTree.walk_blank`, `FileTree.find_blank` — every path leads to the same place.
* `FileTree.write_blank`, `FileTree.makeDirectories_blank` — every change is the same.
* `FileTree.node_of_blank_eq` — trees that are the same when blanked are so at all other places.
-/

/-- A file without its content, or a directory. -/
def FileNode.blank : FileNode → FileNode
  | .file _ time => .file .empty time
  | .directory => .directory

namespace FileTree

/-- What is at one place, blank if it is the other one. -/
def blankAt (place other : Place) (node : FileNode) : FileNode :=
  if other = place then node.blank else node

/-- The tree whose file at a place, if there is one, has no content. -/
def blank (t : FileTree) (place : Place) : FileTree :=
  { t with nodes := t.nodes.map fun (other, node) => (other, blankAt place other node) }

variable {t t' : FileTree} {place : Place}

/-! ### Nodes -/

/-- A directory has no content to lose. -/
@[simp] theorem blankAt_directory (place other : Place) :
    blankAt place other .directory = .directory := by
  unfold blankAt
  split <;> rfl

/-- A blank file is still a file, with its time. -/
theorem blankAt_file (place other : Place) (content : ByteArray) (time : Int) :
    ∃ content', blankAt place other (.file content time) = .file content' time := by
  unfold blankAt
  split
  · exact ⟨.empty, rfl⟩
  · exact ⟨content, rfl⟩

/-- What has been blanked is not changed by blanking. -/
@[simp] theorem blankAt_blankAt (place other : Place) (node : FileNode) :
    blankAt place other (blankAt place other node) = blankAt place other node := by
  unfold blankAt
  split
  · cases node <;> rfl
  · rfl

/-- A file that has been blanked for its place is the same one without its content. -/
@[simp] theorem blank_blankAt (place other : Place) (node : FileNode) :
    (blankAt place other node).blank = node.blank := by
  unfold blankAt
  split
  · cases node <;> rfl
  · rfl

/-- Blanking does not change which places there are. -/
theorem lookup_blank (place other : Place) (nodes : List (Place × FileNode)) :
    (nodes.map fun (p, node) => (p, blankAt place p node)).lookup other
      = (nodes.lookup other).map (blankAt place other) := by
  induction nodes with
  | nil => rfl
  | cons pair nodes ih =>
    obtain ⟨p, node⟩ := pair
    rw [List.map_cons, List.lookup_cons, List.lookup_cons, ih]
    by_cases h : other = p
    · simp [h]
    · simp [show (other == p) = false by simpa using h]

/-- What is at a place of a blanked tree has been blanked there. -/
theorem node_blank (t : FileTree) (place other : Place) :
    (t.blank place).node? other = (t.node? other).map (blankAt place other) := by
  unfold node?
  split
  · simp
  · exact lookup_blank place other t.nodes

/-- Trees that are the same when blanked are so at all other places. -/
theorem node_of_blank_eq (h : t.blank place = t'.blank place) {other : Place}
    (hother : other ≠ place) : t.node? other = t'.node? other := by
  have hsame : blankAt place other = id := funext fun node => if_neg hother
  have hnode := congrArg (·.node? other) h
  simpa only [node_blank, hsame, Option.map_id_fun, id_eq] using hnode

/-! ### Paths -/

/-- Steps go through directories only, and these are not changed. -/
theorem walk_blank (t : FileTree) (place start : Place) (steps : List String) :
    (t.blank place).walk start steps = t.walk start steps := by
  induction steps generalizing start with
  | nil => rfl
  | cons step steps ih =>
    rw [walk, walk, node_blank]
    cases t.node? start with
    | none => rfl
    | some node =>
      cases node with
      | file content time =>
        obtain ⟨content', hcontent⟩ := blankAt_file place start content time
        simp only [Option.map_some, hcontent]
      | directory => simp only [Option.map_some, blankAt_directory, ih]

/-- A path leads to the same place when the tree is blanked. -/
theorem locate_blank (t : FileTree) (place : Place) (path : String) :
    (t.blank place).locate path = t.locate path := by
  simp only [locate, walk_blank]

/-- A path leads to the same place in two trees that are the same when blanked. -/
theorem locate_of_blank_eq (h : t.blank place = t'.blank place) (path : String) :
    t.locate path = t'.locate path := by
  rw [← locate_blank t place, h, locate_blank]

/-- Every path leads to the same, but for content. -/
theorem find_blank (t : FileTree) (place : Place) (path : String) :
    FileNode.blank <$> (t.blank place).find path = FileNode.blank <$> t.find path := by
  unfold find
  rw [locate_blank]
  cases t.locate path with
  | error e => rfl
  | ok other =>
    simp only [bind, Except.bind, node_blank]
    cases t.node? other with
    | none => rfl
    | some node =>
      show Except.ok (blankAt place other node).blank = Except.ok node.blank
      rw [blank_blankAt]

/-- Content is no matter to what kind of thing a path leads to. -/
theorem isDirectory_eq (t : FileTree) (path : String) :
    t.isDirectory path = match FileNode.blank <$> t.find path with
      | .ok .directory => true
      | _ => false := by
  unfold isDirectory
  cases t.find path with
  | error e => rfl
  | ok node => cases node <;> rfl

/-- Whether there is a file can be told without its content. -/
theorem isFile_eq (t : FileTree) (path : String) :
    t.isFile path = match FileNode.blank <$> t.find path with
      | .ok (.file _ _) => true
      | _ => false := by
  unfold isFile
  cases t.find path with
  | error e => rfl
  | ok node => cases node <;> rfl

/-- A path leads to a directory of a blanked tree exactly if it does so in the other. -/
theorem isDirectory_blank (t : FileTree) (place : Place) (path : String) :
    (t.blank place).isDirectory path = t.isDirectory path := by
  rw [isDirectory_eq, find_blank, ← isDirectory_eq]

/-- A path leads to a file of a blanked tree exactly if it does so in the other. -/
theorem isFile_blank (t : FileTree) (place : Place) (path : String) :
    (t.blank place).isFile path = t.isFile path := by
  rw [isFile_eq, find_blank, ← isFile_eq]

/-- Where two trees are the same but for content, a path that leads to the same content leads to
    the same. -/
theorem find_of_blank_eq {path : String} {content : ByteArray} {time time' : Int}
    (h : t.blank place = t'.blank place)
    (hfind : t.find path = .ok (.file content time))
    (hfind' : t'.find path = .ok (.file content time')) : t'.find path = t.find path := by
  have hblank := find_blank t place path
  rw [h, find_blank, hfind, hfind'] at hblank
  cases hblank
  rw [hfind, hfind']

/-- What can be read depends on what is at the place that a path leads to. -/
theorem readText_congr {path path' : String}
    (hlocate : t.locate path = t'.locate path')
    (hnode : ∀ place, t.locate path = .ok place → t.node? place = t'.node? place) :
    t.readText path = t'.readText path' := by
  have hfind : t.find path = t'.find path' := by
    unfold find
    rw [← hlocate]
    cases h : t.locate path with
    | error e => rfl
    | ok place => simp only [bind, Except.bind, hnode place h]
  simp only [readText, read, hfind]

/-! ### Directories -/

/-- What is told of the entries of a directory without their content. -/
theorem filterMap_entriesAt_blank {α : Type} {f : String × FileNode → Option α}
    (hf : ∀ name node, f (name, node.blank) = f (name, node)) (t : FileTree)
    (place directory : Place) :
    ((t.blank place).entriesAt directory).filterMap f
      = (t.entriesAt directory).filterMap f := by
  -- What a function makes of a node without its content does not see the one that is blank.
  have hat (name : String) (other : Place) (node : FileNode) :
      f (name, blankAt place other node) = f (name, node) := by
    unfold blankAt
    split
    · exact hf name node
    · rfl
  unfold entriesAt blank
  simp only [List.filterMap_map, List.filterMap_filterMap]
  apply List.filterMap_congr
  rintro ⟨other, node⟩ -
  dsimp only [Function.comp_apply]
  split
  · split
    · simp [hat]
    · rfl
  · rfl

/-! ### Changes -/

/-- A file that is set is blanked if it is the one at the place. -/
theorem setNode_blank (t : FileTree) (place other : Place) (node : FileNode) :
    (t.setNode other node).blank place
      = (t.blank place).setNode other (blankAt place other node) := by
  have hset (nodes : List (Place × FileNode)) :
      (setNode.set other node nodes).map (fun (p, n) => (p, blankAt place p n))
        = setNode.set other (blankAt place other node)
          (nodes.map fun (p, n) => (p, blankAt place p n)) := by
    induction nodes with
    | nil => rfl
    | cons pair nodes ih =>
      obtain ⟨p, n⟩ := pair
      rw [List.map_cons, setNode.set, setNode.set, ← ih]
      split <;> rfl
  simp only [setNode, blank, hset]

/-- A path that is to be written leads to the same place. -/
theorem locateForWriting_blank (t : FileTree) (place : Place) (path : String) :
    (t.blank place).locateForWriting path = t.locateForWriting path := by
  unfold locateForWriting
  simp only [walk_blank]
  refine bind_congr fun route => bind_congr fun other => ?_
  rw [node_blank]
  cases t.node? other with
  | none => rfl
  | some node =>
    cases node with
    | file content time =>
      obtain ⟨content', hcontent⟩ := blankAt_file place other content time
      simp only [Option.map_some, hcontent]
    | directory => simp only [Option.map_some, blankAt_directory]

/-- Blanking once is enough. -/
@[simp] theorem blank_blank (t : FileTree) (place : Place) :
    (t.blank place).blank place = t.blank place := by
  simp [blank, Function.comp_def]

/-- Writing into a blanked tree leaves the same as writing, but for the content. -/
theorem write_blank (t : FileTree) (place : Place) (path : String) (content : ByteArray) :
    (·.blank place) <$> (t.blank place).write path content
      = (·.blank place) <$> t.write path content := by
  unfold write
  rw [locateForWriting_blank]
  cases t.locateForWriting path with
  | error e => rfl
  | ok other =>
    show Except.ok (((t.blank place).setNode other (.file content t.clock)).blank place)
      = Except.ok ((t.setNode other (.file content t.clock)).blank place)
    rw [setNode_blank, setNode_blank, blank_blank]

/-- A directory is made in a blanked tree as in the other. -/
theorem makeDirectoryAt_blank (t : FileTree) (place start : Place) (steps : List String) :
    (t.blank place).makeDirectoryAt start steps
      = (·.blank place) <$> t.makeDirectoryAt start steps := by
  unfold makeDirectoryAt
  rw [walk_blank]
  cases t.walk start steps with
  | error e => rfl
  | ok other =>
    simp only [bind, Except.bind, node_blank]
    cases t.node? other with
    | none =>
      show Except.ok _ = Except.ok ((t.setNode other .directory).blank place)
      rw [setNode_blank, blankAt_directory]
    | some node => rfl

/-- A directory is there in the blanked tree exactly if it is in the other. -/
theorem isDirectoryAt_blank (t : FileTree) (place start : Place) (steps : List String) :
    (t.blank place).isDirectoryAt start steps = t.isDirectoryAt start steps := by
  unfold isDirectoryAt
  rw [walk_blank]
  cases t.walk start steps with
  | error e => rfl
  | ok other =>
    simp only [node_blank]
    cases t.node? other with
    | none => rfl
    | some node =>
      cases node with
      | file content time =>
        obtain ⟨content', hcontent⟩ := blankAt_file place other content time
        simp only [Option.map_some, hcontent]
        rfl
      | directory => simp only [Option.map_some, blankAt_directory]

/-- Directories that are made one below the other are made in a blanked tree as in the other. -/
theorem makeDirectoriesAt_blank (t : FileTree) (place start : Place) (back : List String) :
    (t.blank place).makeDirectoriesAt start back
      = ((t.makeDirectoriesAt start back).1, (t.makeDirectoriesAt start back).2.blank place) := by
  induction back generalizing t with
  | nil => rfl
  | cons step above ih =>
    rw [makeDirectoriesAt, makeDirectoriesAt, makeDirectoryAt_blank]
    cases t.makeDirectoryAt start (above.reverse ++ [step]) with
    | ok made => rfl
    | error e =>
      -- Only where the directory above is missing is there more to make.
      by_cases he : e = .notFound
      · subst he
        dsimp only [Functor.map, Except.map]
        rw [ih]
        obtain ⟨result, made⟩ := t.makeDirectoriesAt start above
        cases result with
        | error e => rfl
        | ok u =>
          dsimp only
          rw [makeDirectoryAt_blank]
          cases made.makeDirectoryAt start (above.reverse ++ [step]) with
          | ok more => rfl
          | error e =>
            dsimp only [Functor.map, Except.map]
            rw [isDirectoryAt_blank]
      · dsimp only [Functor.map, Except.map]
        rw [isDirectoryAt_blank]
        cases e <;> trivial

/-- The directories of a path are made in a blanked tree as in the other. -/
theorem makeDirectories_blank (t : FileTree) (place : Place) (path : String) :
    (t.blank place).makeDirectories path
      = ((t.makeDirectories path).1, (t.makeDirectories path).2.blank place) := by
  unfold makeDirectories
  split
  · rfl
  · cases Path.Route.of? path with
    | error e => rfl
    | ok route => exact makeDirectoriesAt_blank t place _ _

end FileTree

end Questionnaire
