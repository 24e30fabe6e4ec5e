namespace Questionnaire

/-!
# Paths

A path is a text whose steps stand between slashes.

- `Path.join`: a path below another one.
- `Path.Route`: the steps of a path, and where they start.
- `FileError`: why a file operation fails, with `FileError.message`.
-/

/-- Why a file operation fails. -/
inductive FileError where
  | notFound
  | fileExists
  | notDirectory
  | isDirectory
  | nameTooLong
  | nulByte
  | notText
deriving Repr, DecidableEq

/-- The wording of an error. -/
def FileError.message : FileError → String
  | .notFound => "No such file or directory (os error 2)"
  | .fileExists => "File exists (os error 17)"
  | .notDirectory => "Not a directory (os error 20)"
  | .isDirectory => "Is a directory (os error 21)"
  | .nameTooLong => "File name too long (os error 36)"
  | .nulByte => "file name contained an unexpected NUL byte"
  | .notText => "stream did not contain valid UTF-8"

namespace Path

/-- A path below a base; a path that starts with a slash stands for itself. -/
def join (base path : String) : String :=
  if path.toList.head? == some '/' || base.isEmpty then path
  else if base.toList.getLast? == some '/' then base ++ path
  else base ++ "/" ++ path

/-- The steps of a path. -/
structure Route where
  /-- The steps start at the root of the file system, not at the working directory. -/
  absolute : Bool
  steps : List String
  /-- A slash stands behind the last step. -/
  openEnd : Bool

/-- The steps of a text between its slashes, without empty ones. -/
def stepsOf (path : String) : List String :=
  ((path.toList.splitOnP (· == '/')).filter (!·.isEmpty)).map String.ofList

/-- The longest path and the longest step that the file system takes, in bytes. -/
def longestPath : Nat := 4095

@[inherit_doc longestPath]
def longestStep : Nat := 255

/-- The route that a path describes. -/
def Route.of? (path : String) : Except FileError Route :=
  if path.toList.any (·.toNat == 0) then .error .nulByte
  else if path.isEmpty then .error .notFound
  else if longestPath < path.utf8ByteSize then .error .nameTooLong
  else
    let steps := stepsOf path
    .ok { absolute := path.toList.head? == some '/', steps
    -- A slash at the end asks for a directory.
          openEnd := path.toList.getLast? == some '/' && !steps.isEmpty }

end Path

end Questionnaire
