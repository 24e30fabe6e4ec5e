import Questionnaire.Lindenmayer.Target

namespace Questionnaire

/-!
# The registry of targets

- `Rerun.target`: asks whether the previous function runs again.
- `Registry`: targets by name.
- `Registry.builtin`: the targets that are there from the start.
-/

namespace Rerun

/-- The documentation of the parameter. -/
def doc : String := ":param rerun: Should the previous function be run again?"

/-- The one parameter, which is true by default. -/
def signature : Signature where
  name := "rerun"
  doc := some doc
  params := [⟨"rerun", .bool, some (.bool true), Signature.paramDoc? doc "rerun"⟩]

/-- The target whose result is the answer. -/
def target : Target where
  signature := signature
  functions := []
  invoke a files :=
    (.ofExcept ((Json.bool <$> a.extract Json.truth "rerun").mapError (·.chain)), files)

end Rerun

/-- Targets by name. -/
structure Registry where
  targets : List (String × Target)

namespace Registry

/-- No targets. -/
def empty : Registry := ⟨[]⟩

/-- Adds a target, in the place of one with the same name. -/
def register (r : Registry) (t : Target) : Registry := ⟨Keyed.put t.name t r.targets⟩

/-- The target of a name. -/
def get? (r : Registry) (name : String) : Option Target := r.targets.lookup name

/-- Whether there is a target of a name. -/
def contains (r : Registry) (name : String) : Bool := (r.get? name).isSome

/-- The names of the targets, sorted. -/
def names (r : Registry) : List String := Keyed.keys (Keyed.sorted r.targets)

/-- The targets that are there from the start; `chance` gives the random colors of drawings. -/
def builtin (chance : Nat → Lindenmayer.Rgb) : Registry :=
  (empty.register (Lindenmayer.target chance)).register Rerun.target

end Registry

end Questionnaire
