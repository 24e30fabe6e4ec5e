import Questionnaire.FileTree.Operations
import Questionnaire.Saved
import Questionnaire.Text.Split

namespace Questionnaire

/-!
# The store of saved configurations

The configurations of a function are files in a directory of their own.  A file is named by the
configuration and the function.

- `Store`: the function and its directory.
- `Store.list`: the names of the configurations, the latest first.
- `Store.restore`, `Store.save`: reading and writing one.
- `StoreError`: why reading or writing fails, with `StoreError.message`.
-/

/-- The configurations of a function. -/
structure Store where
  function : String
  directory : String
deriving Repr, DecidableEq

/-- Why a configuration cannot be read or written. -/
inductive StoreError where
  | read (path : String) (cause : FileError)
  | document (path function : String) (cause : Saved.ReadError)
  | create (path : String) (cause : FileError)
  | write (path : String) (cause : FileError)
deriving Repr, DecidableEq

/-- The wording of an error. -/
def StoreError.message : StoreError → String
  | .read path cause => s!"Failed to read '{path}': {cause.message}"
  | .document path _ .malformed => s!"Failed to parse '{path}': {Toml.malformedMessage}"
  | .document path function (.foreign owner) =>
    s!"'{path}' was saved for '{owner}', not '{function}'"
  | .document path _ (.notString key) => s!"Value of '{key}' in '{path}' is not a string"
  | .create path cause => s!"Failed to create '{path}': {cause.message}"
  | .write path cause => s!"Failed to write '{path}': {cause.message}"

namespace Store

/-- The store of a function below a root directory. -/
def below (root function : String) : Store := ⟨function, Path.join root (function ++ "-saves")⟩

/-- The end of the names of files that hold configurations. -/
def ending (s : Store) : String := "." ++ s.function

/-- The path of a configuration. -/
def pathFor (s : Store) (name : String) : String := Path.join s.directory (name ++ s.ending)

/-- Whether the directory is there. -/
def isPresent (s : Store) (files : FileTree) : Bool := files.isDirectory s.directory

/-! ### Listing -/

/-- The configuration that a file holds: its time and its name. -/
def entry? (s : Store) : String × FileNode → Option (Int × String)
  | (name, .file _ time) =>
    (Text.before? s.ending.toList name.toList).map fun cs => (time, String.ofList cs)
  | (_, .directory) => none

/-- The order of the list: by time, the latest first, then by name. -/
def precedes (a b : Int × String) : Bool := b.1 < a.1 || (a.1 == b.1 && decide (a.2 ≤ b.2))

/-- The names of the configurations, the latest first. -/
def list (s : Store) (files : FileTree) : List String :=
  match files.entries s.directory with
  | .ok entries => ((entries.filterMap s.entry?).mergeSort precedes).map (·.2)
  | .error _ => []

/-! ### Reading and writing -/

/-- The configuration of a name. -/
def restore (s : Store) (files : FileTree) (name : String) : Except StoreError Saved :=
  let path := s.pathFor name
  match files.readText path with
  | .error cause => .error (.read path cause)
  | .ok text => (Saved.read s.function text).mapError (.document path s.function)

/-- Makes the directory if it is missing. -/
def prepare (s : Store) (files : FileTree) : Except StoreError Unit × FileTree :=
  if s.isPresent files then (.ok (), files)
  else
    let (made, files) := files.makeDirectories s.directory
    (made.mapError (.create s.directory), files)

/-- Writes a configuration under a name, and gives the path of its file. -/
def save (s : Store) (files : FileTree) (name : String) (saved : Saved) :
    Except StoreError String × FileTree :=
  match s.prepare files with
  | (.error e, files) => (.error e, files)
  | (.ok (), files) =>
    let path := s.pathFor name
    -- Directories that have been made stay, even if the file cannot be written.
    match files.write path (saved.document s.function).toUTF8 with
    | .ok files => (.ok path, files)
    | .error cause => (.error (.write path cause), files)

end Store

end Questionnaire
