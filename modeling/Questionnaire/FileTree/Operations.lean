import Questionnaire.FileTree.Basic
import Questionnaire.Text.Utf8

namespace Questionnaire.FileTree

/-!
# File operations

- `read`, `readText`: the content of a file.
- `write`: replaces the content of a file, or makes a new one.
- `makeDirectories`: makes a directory with those above it.
- `remove`, `touch`: take a file away, or set its time.
- `entries`: what is in a directory; `files`: all files below the working directory.
-/

/-! ### Reading -/

/-- The content of a file. -/
def read (t : FileTree) (path : String) : Except FileError ByteArray := do
  match ← t.find path with
  | .file content _ => .ok content
  | .directory => .error .isDirectory

/-- The content of a file of text. -/
def readText (t : FileTree) (path : String) : Except FileError String := do
  match Text.ofUtf8? (← t.read path) with
  | some text => .ok text
  | none => .error .notText

/-! ### Writing -/

/-- The place of a file to be written.  A slash at the end of the path asks for a directory. -/
def locateForWriting (t : FileTree) (path : String) : Except FileError Place := do
  let route ← Path.Route.of? path
  let place ← t.walk (origin route) route.steps
  if route.openEnd then .error .isDirectory
  else match t.node? place with
    | some .directory => .error .isDirectory
    | _ => .ok place

/-- Replaces the content of a file, or makes a new one. -/
def write (t : FileTree) (path : String) (content : ByteArray) : Except FileError FileTree := do
  let place ← t.locateForWriting path
  .ok (t.setNode place (.file content t.clock))

/-- Makes a directory where steps lead to. -/
def makeDirectoryAt (t : FileTree) (start : Place) (steps : List String) :
    Except FileError FileTree := do
  let place ← t.walk start steps
  match t.node? place with
  | some _ => .error .fileExists
  | none => .ok (t.setNode place .directory)

/-- Steps lead to a directory. -/
def isDirectoryAt (t : FileTree) (start : Place) (steps : List String) : Bool :=
  match t.walk start steps with
  | .ok place => (t.node? place).any FileNode.isDirectory
  | .error _ => false

/-- Makes a directory where steps, given from the last one back, lead to; first those above it that
    are missing.  A directory that is already there is as good as a new one. -/
def makeDirectoriesAt (t : FileTree) (start : Place) :
    (back : List String) → Except FileError Unit × FileTree
  | [] => (.ok (), t)
  | step :: above =>
    let steps := above.reverse ++ [step]
    match t.makeDirectoryAt start steps with
    | .ok t => (.ok (), t)
    -- The directory above is missing, so it is made first, and then this one again.
    | .error .notFound => match t.makeDirectoriesAt start above with
      | (.error e, t) => (.error e, t)
      | (.ok (), t) => match t.makeDirectoryAt start steps with
        | .ok t => (.ok (), t)
        -- A directory that has come to be there meanwhile is as good as one that has been made.
        | .error e => (if t.isDirectoryAt start steps then .ok () else .error e, t)
    | .error e => (if t.isDirectoryAt start steps then .ok () else .error e, t)

/-- Makes a directory with those above it that are missing.  What has been made stays even if the
    rest fails. -/
def makeDirectories (t : FileTree) (path : String) : Except FileError Unit × FileTree :=
  if path.isEmpty then (.ok (), t)
  else match Path.Route.of? path with
    | .error e => (.error e, t)
    | .ok route => t.makeDirectoriesAt (origin route) route.steps.reverse

/-! ### Changing -/

/-- Takes a file away. -/
def remove (t : FileTree) (path : String) : Except FileError FileTree := do
  let place ← t.locate path
  match t.node? place with
  | some (.file _ _) => .ok (t.dropNode place)
  | some .directory => .error .isDirectory
  | none => .error .notFound

/-- Sets the time of a file. -/
def touch (t : FileTree) (path : String) (time : Int) : Except FileError FileTree := do
  let place ← t.locate path
  match t.node? place with
  | some (.file content _) => .ok (t.setNode place (.file content time))
  | some .directory => .ok t
  | none => .error .notFound

/-! ### Listing -/

/-- What is in the directory at a place, by name. -/
def entriesAt (t : FileTree) (place : Place) : List (String × FileNode) :=
  t.nodes.filterMap fun (p, node) => match p.getLast? with
    | some name => if p.dropLast == place then some (name, node) else none
    | none => none

/-- What is in a directory, by name. -/
def entries (t : FileTree) (path : String) : Except FileError (List (String × FileNode)) := do
  let place ← t.locate path
  match t.node? place with
  | some .directory => .ok (t.entriesAt place)
  | some (.file _ _) => .error .notDirectory
  | none => .error .notFound

/-- The order of places directory by directory, in each by name. -/
def precedes : Place → Place → Bool
  | [], _ => true
  | _ :: _, [] => false
  | a :: as, b :: bs => decide (a < b) || (a == b && precedes as bs)

/-- The files below the working directory, each with its place, directory by directory in the order
    of the names. -/
def files (t : FileTree) : List (Place × ByteArray) :=
  let found := t.nodes.filterMap fun (place, node) => match node with
    | .file content _ =>
      if place.head? == some ".." || place.head? == some "/" then none else some (place, content)
    | .directory => none
  found.mergeSort fun a b => precedes a.1 b.1

/-- A place below the working directory as a path. -/
def pathOf (place : Place) : String := "./" ++ String.intercalate "/" place

end Questionnaire.FileTree
