import Questionnaire.FileTree.Basic
import Questionnaire.Json.Basic
import Questionnaire.Question
import Questionnaire.Report

namespace Questionnaire

/-!
# Sessions

In a session the program puts questions, the user answers them, and files change.

- `Event`: what the user sees happen.
- `Session`: the answers to come, the files, and what has happened.
- `Dialogue`: a part of a session that gives a result, unless the session stops.
- `Dialogue.put`: puts a question until an answer is accepted.
-/

/-- What the user sees happen. -/
inductive Event where
  | asked (question : Question)
  | answered
  | reported (report : Report)
  /-- The run of a function failed. -/
  | failed (function message : String)
  /-- The run of a function gave a result. -/
  | printed (result : Json)

/-- The answers to come, the files, and what has happened. -/
structure Session where
  answers : List String
  files : FileTree
  events : List Event

/-- Why a session stops before its end. -/
inductive Stop where
  /-- There is no answer to a question. -/
  | unanswered (question : Question)
  /-- An evaluation broke off. -/
  | crashed

/-- A part of a session. -/
abbrev Dialogue (α : Type) := EStateM Stop Session α

/-- What becomes of an answer. -/
inductive Judgment (α : Type) where
  | accepted (a : α)
  /-- The question is put again. -/
  | refused (report : Report)
  | crashed

/-- Judges an accepted answer further. -/
def Judgment.bind {α β : Type} (j : Judgment α) (f : α → Judgment β) : Judgment β :=
  match j with
  | .accepted a => f a
  | .refused report => .refused report
  | .crashed => .crashed

namespace Session

/-- The session after one more event. -/
def note (s : Session) (e : Event) : Session := { s with events := s.events ++ [e] }

/-- The questions put so far. -/
def questions (s : Session) : List Question := s.events.filterMap fun
  | .asked q => some q
  | _ => none

/-- The reports so far. -/
def reports (s : Session) : List Report := s.events.filterMap fun
  | .reported r => some r
  | _ => none

end Session

namespace Dialogue

/-- Something happens. -/
def note (e : Event) : Dialogue Unit := modify fun s => s.note e

/-- The files at this point. -/
def files : Dialogue FileTree := return (← get).files

/-- Puts a question until an answer is accepted.  Judging an answer may change files. -/
def putTo {α : Type} (q : Question) (judge : FileTree → String → Judgment α × FileTree)
    (files : FileTree) (events : List Event) :
    (answers : List String) → EStateM.Result Stop Session α
  | [] => .error (.unanswered q) ⟨[], files, events ++ [.asked q]⟩
  | answer :: rest =>
    -- The answer is used up before it is judged, however that ends.
    let events := events ++ [.asked q, .answered]
    match judge files answer with
    | (.accepted a, files) => .ok a ⟨rest, files, events⟩
    | (.refused report, files) => putTo q judge files (events ++ [.reported report]) rest
    | (.crashed, files) => .error .crashed ⟨rest, files, events⟩

@[inherit_doc putTo]
def put {α : Type} (q : Question) (judge : FileTree → String → Judgment α × FileTree) :
    Dialogue α := fun s => putTo q judge s.files s.events s.answers

end Dialogue

end Questionnaire
