import Questionnaire.FileTree.Path

namespace Questionnaire

/-!
# File trees

The files and directories that a session sees, with a clock that stamps what is written.

- `Place`: where a file or directory is, as the names from the working directory down.  A place
  outside starts with `..` for each level up, or with `/`.
- `FileTree`: what is at each place.
- `FileTree.locate`: the place that a path leads to.
- `FileTree.isDirectory`, `FileTree.isFile`, `FileTree.pathExists`: tests of a path.
-/

/-- Names from the working directory down. -/
abbrev Place := List String

/-- A file with its content and the time of its last change, or a directory. -/
inductive FileNode where
  | file (content : ByteArray) (time : Int)
  | directory

namespace FileNode

/-- The node is a directory. -/
def isDirectory : FileNode → Bool
  | .directory => true
  | .file _ _ => false

end FileNode

/-- Files and directories by place, and the time that the next change gets. -/
structure FileTree where
  nodes : List (Place × FileNode)
  clock : Int

namespace FileTree

/-- Nothing but the working directory. -/
def empty : FileTree := ⟨[], 0⟩

/-- The working directory, those above it and the root of the file system are always there. -/
def isBase : Place → Bool
  | [] => true
  | ["/"] => true
  | step :: rest => step == ".." && isBase rest

/-- What is at a place. -/
def node? (t : FileTree) (place : Place) : Option FileNode :=
  if isBase place then some .directory else t.nodes.lookup place

/-- Puts something at a place. -/
def setNode (t : FileTree) (place : Place) (node : FileNode) : FileTree :=
  { t with nodes := set t.nodes }
where
  /-- Replaces the node at the place, or adds one. -/
  set : List (Place × FileNode) → List (Place × FileNode)
    | [] => [(place, node)]
    | (p, n) :: rest => if p == place then (place, node) :: rest else (p, n) :: set rest

/-- Takes away what is at a place. -/
def dropNode (t : FileTree) (place : Place) : FileTree :=
  { t with nodes := t.nodes.filter fun (p, _) => p != place }

/-! ### Paths -/

/-- The place one level up. -/
def above : Place → Place
  | [] => [".."]
  | ["/"] => ["/"]
  | place => if isBase place then ".." :: place else place.dropLast

/-- The place that steps lead to from a place.  Every place on the way is a directory; the last one
    may hold nothing. -/
def walk (t : FileTree) (place : Place) : List String → Except FileError Place
  | [] => .ok place
  | step :: rest => match t.node? place with
    | none => .error .notFound
    | some (.file _ _) => .error .notDirectory
    | some .directory =>
      -- Even the step to where one stands needs a directory there.
      if step == "." then t.walk place rest
      else if step == ".." then t.walk (above place) rest
      else if Path.longestStep < step.utf8ByteSize then .error .nameTooLong
      else t.walk (place ++ [step]) rest

/-- Where the steps of a route start. -/
def origin (route : Path.Route) : Place := if route.absolute then ["/"] else []

/-- The place that a path leads to. -/
def locate (t : FileTree) (path : String) : Except FileError Place := do
  let route ← Path.Route.of? path
  t.walk (origin route) (if route.openEnd then route.steps ++ ["."] else route.steps)

/-- What a path leads to. -/
def find (t : FileTree) (path : String) : Except FileError FileNode := do
  match t.node? (← t.locate path) with
  | some node => .ok node
  | none => .error .notFound

/-! ### Tests -/

/-- A path leads to a directory. -/
def isDirectory (t : FileTree) (path : String) : Bool :=
  match t.find path with
  | .ok .directory => true
  | _ => false

/-- A path leads to a file. -/
def isFile (t : FileTree) (path : String) : Bool :=
  match t.find path with
  | .ok (.file _ _) => true
  | _ => false

/-- A path leads to a file or a directory. -/
def pathExists (t : FileTree) (path : String) : Bool := (t.find path).isOk

end FileTree

end Questionnaire
