import Questionnaire.Session.Restore

namespace Questionnaire

/-!
# Collecting arguments

- `Collection`: what a run of questions gives.
- `Setup.collectFrom`: the values of the parameters, one by one.
- `Setup.save`: asks for a name and saves the answers.
- `Setup.collect`: restoring, asking, saving.
-/

/-- What a run of questions gives. -/
structure Collection where
  /-- The values of the parameters that are not overridden. -/
  arguments : Arguments
  /-- The answers that gave them, in the order of the parameters. -/
  tokens : List (String × String)
  /-- The name of the configuration that was restored. -/
  restoredFrom : Option String
  /-- The path of the file that was written. -/
  savedTo : Option String

namespace Collection

/-- Nothing yet, after a configuration has perhaps been restored. -/
def start (restoredFrom : Option String) : Collection := ⟨Arguments.empty, [], restoredFrom, none⟩

/-- The collection with the value of one more parameter. -/
def add (c : Collection) (name : String) (given : Given) : Collection :=
  { c with
    arguments := c.arguments.insert name given.value
    tokens := c.tokens ++ (given.token.map fun token => (name, token)).toList }

end Collection

namespace Setup

/-! ### Parameters -/

/-- The value of a parameter that is not overridden.  An internal one has its default; of the
    others, those that have not been restored are asked for. -/
def collectOne (s : Setup) (function : String) (restored : List (String × Given)) (p : Parameter) :
    Dialogue (Option Given) :=
  if p.isInternal then return p.default.map fun v => ⟨v, none⟩
  else match restored.lookup p.name with
    | some given => return some given
    | none => some <$> s.ask (.ofParameter function p)

/-- Adds the values of parameters to a collection. -/
def collectFrom (s : Setup) (function : String) (overrides : Arguments)
    (restored : List (String × Given)) : List Parameter → Collection → Dialogue Collection
  | [], c => return c
  | p :: rest, c =>
    if overrides.contains p.name then s.collectFrom function overrides restored rest c
    else do
      match ← s.collectOne function restored p with
      | some given => s.collectFrom function overrides restored rest (c.add p.name given)
      | none => s.collectFrom function overrides restored rest c

/-! ### Saving -/

/-- Saves the answers under the name that an answer gives, and gives the path of the file. -/
def judgeNewName (s : Setup) (store : Store) (saved : Saved) (q : Question) (files : FileTree)
    (answer : String) : Judgment String × FileTree :=
  match s.readName q answer with
  | .accepted name => match store.save files name saved with
    | (.ok path, files) => (.accepted path, files)
    | (.error e, files) => (.refused (s.error e.message), files)
  | .refused report => (.refused report, files)
  | .crashed => (.crashed, files)

/-- Asks whether and where to save the answers. -/
def save (s : Setup) (signature : Signature) (c : Collection) : Dialogue (Option String) := do
  if ← s.confirm (.save signature.name) then
    let q := Question.newName signature.name (c.restoredFrom.getD signature.name)
    some <$> Dialogue.put q (s.judgeNewName (s.store signature) ⟨c.tokens⟩ q)
  else return none

/-! ### The whole run -/

/-- Collects the values of all parameters that are not overridden. -/
def collect (s : Setup) (signature : Signature) (overrides : Arguments) : Dialogue Collection := do
  let (restored, restoredFrom) ←
    if s.enableSaves then s.restore signature overrides else pure ([], none)
  let c ← s.collectFrom signature.name overrides restored signature.params
    (Collection.start restoredFrom)
  if s.enableSaves then return { c with savedTo := ← s.save signature c } else return c

end Setup

end Questionnaire
