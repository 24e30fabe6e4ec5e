import Questionnaire.FileTree.Operations
import Questionnaire.Session.Basic
import Questionnaire.Text.Lines

namespace Questionnaire

/-!
# Where answers come from

Answers come from a script, one on each line, or from a terminal.

- `Source`: the answers, and why there are no more.
- `Source.ofScript`, `Source.load`: a script.
- `Source.ofTerminal`: all that is entered on a terminal.
- `Terminal`: a terminal that may refuse to take all that is written, with `Terminal.prompt`.
-/

/-- Why there are no more answers. -/
inductive Ending where
  /-- The script is over. -/
  | script
  /-- The terminal is closed. -/
  | closed
  /-- The next line is no text. -/
  | notText
deriving Repr, DecidableEq

/-- The message at a question without an answer. -/
def Ending.message (e : Ending) (q : Question) : String :=
  match e with
  | .script => s!"No scripted answer left for '{q.parameter}'"
  | .closed => s!"Input closed while waiting for '{q.parameter}'"
  | .notText => s!"Failed to read input: {FileError.notText.message}"

/-- Answers, and why there are no more. -/
structure Source where
  answers : List String
  ending : Ending
deriving Repr, DecidableEq

namespace Source

/-- The answers of a script. -/
def ofScript (text : String) : Source := ⟨Text.lines text, .script⟩

/-- The answers of the script in a file. -/
def load (files : FileTree) (path : String) : Except String Source :=
  match files.readText path with
  | .ok text => .ok (ofScript text)
  | .error e => .error s!"Failed to read answers from '{path}': {e.message}"

/-- The answers on lines, up to the first one that is no text. -/
def ofLines : List (List UInt8) → Source
  | [] => ⟨[], .closed⟩
  | line :: rest => match Text.ofByteLine? line with
    | none => ⟨[], .notText⟩
    | some answer => { ofLines rest with answers := answer :: (ofLines rest).answers }

/-- The answers that are entered on a terminal. -/
def ofTerminal (bytes : ByteArray) : Source := ofLines (Text.byteLines bytes)

end Source

/-! ### Terminals -/

/-- A terminal: what will be entered, what has been written, and how much more can be. -/
structure Terminal where
  lines : List (List UInt8)
  written : List UInt8
  /-- The number of bytes that can still be written, if there is a limit. -/
  room : Option Nat
deriving Repr, DecidableEq

/-- Why there is no answer. -/
inductive TerminalError where
  | full
  | ended (ending : Ending)
deriving Repr, DecidableEq

/-- The message of an error at a question. -/
def TerminalError.message (e : TerminalError) (q : Question) : String :=
  match e with
  | .full => "Failed to write prompt: writer is full"
  | .ended ending => ending.message q

namespace Terminal

/-- The line that closes an answered question. -/
def separator : String := "-+-+-+-+-+-+-+-+-+-+-+-+-+-\n"

/-- A terminal on which bytes are entered. -/
def start (input : ByteArray) (room : Option Nat) : Terminal := ⟨Text.byteLines input, [], room⟩

/-- Writes as much of a text as there is room for, and tells whether that was all. -/
def write (t : Terminal) (text : String) : Bool × Terminal :=
  let bytes := text.toUTF8.toList
  match t.room with
  | none => (true, { t with written := t.written ++ bytes })
  | some room =>
    (bytes.length ≤ room,
      { t with written := t.written ++ bytes.take room, room := some (room - bytes.length) })

/-- Reads the next line. -/
def read (t : Terminal) : Except TerminalError String × Terminal :=
  match t.lines with
  | [] => (.error (.ended .closed), t)
  | line :: rest =>
    -- The line is used up even if it is no text.
    let t := { t with lines := rest }
    match Text.ofByteLine? line with
    | none => (.error (.ended .notText), t)
    | some answer => (.ok answer, t)

/-- Puts a question and reads the answer. -/
def prompt (t : Terminal) (q : Question) : Except TerminalError String × Terminal :=
  match t.write q.rendered with
  | (false, t) => (.error .full, t)
  | (true, t) => match t.read with
    | (.error e, t) => (.error e, t)
    -- An answer is lost if the separator behind it cannot be written.
    | (.ok answer, t) => match t.write separator with
      | (false, t) => (.error .full, t)
      | (true, t) => (.ok answer, t)

end Terminal

end Questionnaire
