import Questionnaire.Arguments
import Questionnaire.FileTree.Operations
import Questionnaire.Signature.Basic

namespace Questionnaire

/-!
# Targets

A target is a function whose arguments can be collected.

- `Outcome`: what comes of a run, with `Outcome.ofExcept`.
- `Target`: a signature, the functions that arguments may refer to, and the run itself.
-/

/-- What comes of a run. -/
inductive Outcome where
  | done (result : Json)
  /-- The run failed; each message is explained by the next one. -/
  | failed (chain : List String)
  /-- The run broke off, perhaps with a message. -/
  | crashed (message : Option String)

/-- The outcome of a run that gives a result or fails with a chain of messages. -/
def Outcome.ofExcept : Except (List String) Json → Outcome
  | .ok result => .done result
  | .error chain => .failed chain

/-- A function whose arguments can be collected. -/
structure Target where
  signature : Signature
  /-- The functions that arguments may refer to by name. -/
  functions : List String
  /-- Runs the function, which may write files. -/
  invoke : Arguments → FileTree → Outcome × FileTree

namespace Target

/-- The name of the function. -/
def name (t : Target) : String := t.signature.name

end Target

end Questionnaire
