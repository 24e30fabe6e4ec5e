import Questionnaire.CommandLine.Run

namespace Questionnaire

/-!
# The program

The run of the program is a function of what has been entered so far.  This module enters more when
the run waits for it, shows what is new, and carries files between the tree and the disk.

- `Disk.bring`: brings what is on the disk at a path into the tree.
- `Disk.keep`: writes what is new in the tree.
- `converse`: the conversation with the user.
-/

namespace Disk

/-- A place as a path. -/
def pathOf (place : Place) : String :=
  match place with
  | [] => "."
  | "/" :: rest => "/" ++ String.intercalate "/" rest
  | _ => String.intercalate "/" place

/-- Brings what is on the disk at a place into the tree, unless it is there already. -/
def bringPlace (t : FileTree) (place : Place) : IO FileTree := do
  if (t.node? place).isSome then return t
  let path := (← IO.currentDir) / pathOf place
  try
    let data ← path.metadata
    let time := data.modified.sec * 1000000000 + data.modified.nsec.toNat
    match data.type with
    | .dir => return t.setNode place .directory
    | .file => return t.setNode place (.file (← IO.FS.readBinFile path) time)
    | _ => return t
  catch _ => return t

/-- The places that a path leads over, in order. -/
def placesOf (path : String) : List Place :=
  match Path.Route.of? path with
  | .error _ => []
  | .ok route =>
    let start := FileTree.origin route
    let step := fun (place : Place) (s : String) =>
      if s == "." then place else if s == ".." then FileTree.above place else place ++ [s]
    (route.steps.foldl (fun (places, place) s => (places ++ [step place s], step place s))
      (([start], start) : List Place × Place)).1

/-- Brings what is on the disk at a path into the tree, with the entries of a directory. -/
def bring (t : FileTree) (path : String) : IO FileTree := do
  let places := placesOf path
  let t ← places.foldlM bringPlace t
  match places.getLast? with
  | some place =>
    if !place.isEmpty && t.isDirectory path then
      try
        let entries ← ((← IO.currentDir) / pathOf place).readDir
        entries.foldlM (fun t entry => bringPlace t (place ++ [entry.fileName])) t
      catch _ => return t
    else return t
  | none => return t

/-- Writes what is new in a tree. -/
def keep (before after : FileTree) : IO Unit := do
  for (place, node) in after.nodes do
    let path := (← IO.currentDir) / pathOf place
    match node, before.node? place with
    | .directory, some .directory => pure ()
    | .directory, _ => IO.FS.createDirAll path
    | .file content _, some (.file old _) =>
      if content != old then IO.FS.writeBinFile path content
    | .file content _, _ => IO.FS.writeBinFile path content

end Disk

/-- The tree with a clock that runs after all its times. -/
def withLaterClock (t : FileTree) : FileTree :=
  { t with clock := t.nodes.foldl (fun clock (_, node) => match node with
      | .file _ time => max clock (time + 1)
      | .directory => clock) t.clock }

/-- The configuration that options ask for, or the default one. -/
def configurationOf (o : Options) (t : FileTree) : Configuration :=
  (Configuration.loadOrDefault t (o.config.getD "./paramwiz.toml")).toOption.getD {}

/-- The name of the target that options ask for. -/
def targetName (o : Options) : String := o.target.getD "lindenmayer"

/-- The store of the target that options ask for. -/
def storeOf (o : Options) (t : FileTree) : Store :=
  Store.below (configurationOf o t).session.savesRoot (targetName o)

/-- The strings among the overrides in a configuration, any of which may be a path. -/
def configuredPaths (o : Options) (t : FileTree) : List String :=
  let settings := (configurationOf o t).targets.lookup (targetName o)
  (settings.bind (·.overrides) |>.getD []).filterMap fun
    | (_, .str s) => some s
    | _ => none

/-- The answers in the saved configurations. -/
def savedAnswers (s : Store) (t : FileTree) : List String :=
  (s.list t).flatMap fun name => match s.restore t name with
    | .ok saved => saved.values.map (·.2)
    | .error _ => []

/-- The answers in the script that options ask for. -/
def scriptedAnswers (o : Options) (t : FileTree) : List String :=
  o.answers.toList.flatMap fun path => match Source.load t path with
    | .ok source => source.answers
    | .error _ => []

/-- The paths that an answer or an assignment may mean.  One without a value counts as bare
    text. -/
def possiblePaths (answer : String) : List String :=
  match Answer.evaluate [] answer with
  | .ok (.str s) => [s]
  | .ok _ => []
  | .error _ => [Text.trimmed answer]

/-- The value in an assignment. -/
def assigned (assignment : String) : String :=
  String.ofList ((assignment.toList.dropWhile (· != '=')).drop 1)

/-- What has been shown of a run. -/
structure Shown where
  output : Nat
  messages : Nat
  files : FileTree

/-- Shows what is new in a run, and writes the files that are new. -/
def advance (s : Shown) (c : Conclusion) : IO Shown := do
  let out ← IO.getStdout
  out.putStr (String.ofList (c.output.toList.drop s.output))
  out.flush
  for message in c.messages.drop s.messages do
    IO.eprintln message
  Disk.keep s.files c.files
  return ⟨c.output.length, c.messages.length, c.files⟩

/-- The next line that is entered, with its end. -/
partial def enterLine (input : IO.FS.Stream) (line : ByteArray) : IO ByteArray := do
  let byte ← input.read 1
  if byte.isEmpty then return line
  else if byte == "\n".toUTF8 then return line ++ byte
  else enterLine input (line ++ byte)

/-- Runs the program on what has been entered, and enters more as long as the run waits for it. -/
partial def converse (c : Conditions) (s : Shown) : IO UInt32 := do
  let conclusion := c.run
  let s ← advance s conclusion
  let line ← if conclusion.isWaiting then enterLine (← IO.getStdin) ByteArray.empty
    else pure ByteArray.empty
  if line.isEmpty then
    for message in conclusion.verdict.toList do
      IO.eprintln message
    return UInt32.ofNat conclusion.code
  let paths := (Text.ofByteLine? line.toList).map possiblePaths |>.getD []
  let fresh ← paths.foldlM Disk.bring s.files
  let added := fresh.nodes.filter fun (place, _) => (s.files.node? place).isNone
  let files := { c.files with nodes := c.files.nodes ++ added }
  converse { c with input := c.input ++ line, files } { s with files := fresh }

/-- The files that a run may need before anything is entered. -/
def startingFiles (arguments : List String) : IO FileTree := do
  match Options.parse arguments with
  | .error _ => return FileTree.empty
  | .ok o =>
    let t ← Disk.bring FileTree.empty (o.config.getD "./paramwiz.toml")
    let t ← o.answers.toList.foldlM Disk.bring t
    let store := storeOf o t
    let t ← Disk.bring t store.directory
    let answers := scriptedAnswers o t ++ savedAnswers store t ++ o.assignments.map assigned
    let paths := configuredPaths o t ++ answers.flatMap possiblePaths
    return withLaterClock (← paths.foldlM Disk.bring t)

end Questionnaire

open Questionnaire

/-- Collects the arguments of a target and runs it. -/
def main (arguments : List String) : IO UInt32 := do
  let files ← startingFiles arguments
  let seed ← IO.rand 0 (Number.twoTo 62)
  let chance := Lindenmayer.scattered (UInt64.ofNat seed)
  converse { arguments, input := ByteArray.empty, files, chance } ⟨0, 0, files⟩
