import Questionnaire.Arguments
import Questionnaire.Filename
import Questionnaire.Session.Ask
import Questionnaire.Store

namespace Questionnaire

/-!
# Restoring a configuration

- `LoadFault`: why a saved configuration does not fit, with `LoadFault.message`.
- `Setup.load`: the values that a saved configuration gives to parameters.
- `Setup.restore`: asks for a saved configuration and loads it.
-/

/-- Why a saved configuration does not fit. -/
inductive LoadFault where
  | store (cause : StoreError)
  | answer (parameter : String) (cause : Answer.Fault)
  | misfit (value : Value) (parameter : String) (type : ValueType)

/-- The wording of a fault. -/
def LoadFault.message : LoadFault → String
  | .store cause => cause.message
  | .answer parameter cause => s!"Saved value of '{parameter}': {cause.message}"
  | .misfit value parameter type =>
    s!"Saved value {value.text} of '{parameter}' is not a valid {type.text}"

/-- The evaluation of a saved answer broke off. -/
def LoadFault.isCrash : LoadFault → Bool
  | .answer _ .crash => true
  | _ => false

namespace Setup

/-! ### Loading -/

/-- The value of a saved answer.  One that has no value counts as bare text where the parameter
    admits a string. -/
def loadAnswer (s : Setup) (p : Parameter) (answer : String) : Except LoadFault Given :=
  let token := Text.trimmed answer
  match Answer.evaluate s.functions answer with
  | .ok v =>
    if p.type.accepts v then .ok ⟨v, some token⟩ else .error (.misfit v p.name p.type)
  -- What breaks off is no bare text, although other faults may be.
  | .error .crash => .error (.answer p.name .crash)
  | .error cause =>
    let text := Value.str token
    if p.type.accepts text then .ok ⟨text, some text.text⟩ else .error (.answer p.name cause)

/-- The value that a saved configuration gives to a parameter: that of its answer, or the
    default. -/
def loadParameter (s : Setup) (saved : Saved) (p : Parameter) : Except LoadFault (Option Given) :=
  match saved.get? p.name with
  | some answer => some <$> s.loadAnswer p answer
  | none => .ok (p.default.map fun v => ⟨v, none⟩)

/-- The values that a saved configuration gives to parameters, by name.  Overridden and internal
    parameters get none. -/
def loadAll (s : Setup) (overrides : Arguments) (saved : Saved) :
    List Parameter → Except LoadFault (List (String × Given))
  | [] => .ok []
  | p :: rest =>
    -- A configuration need not be readable where it is not looked at.
    if overrides.contains p.name || p.isInternal then s.loadAll overrides saved rest
    else do
      let given ← s.loadParameter saved p
      let more ← s.loadAll overrides saved rest
      return match given with
        | some given => (p.name, given) :: more
        | none => more

/-- The values in the configuration of a name. -/
def load (s : Setup) (signature : Signature) (overrides : Arguments) (store : Store)
    (files : FileTree) (name : String) : Except LoadFault (List (String × Given)) := do
  let saved ← (store.restore files name).mapError .store
  s.loadAll overrides saved signature.params

/-! ### Asking -/

/-- The store of a function. -/
def store (s : Setup) (signature : Signature) : Store := Store.below s.savesRoot signature.name

/-- The name that an answer gives. -/
def readName (s : Setup) (q : Question) (answer : String) : Judgment String :=
  (s.read q answer).bind fun given => match Filename.check given.value with
    | .ok name => .accepted name
    | .error fault => .refused (s.error fault.message)

/-- The name of a saved configuration that an answer gives. -/
def judgeSavedName (s : Setup) (store : Store) (names : List String) (q : Question)
    (files : FileTree) (answer : String) : Judgment String :=
  (s.readName q answer).bind fun name =>
    if names.contains name && files.isFile (store.pathFor name) then .accepted name
    else .refused (s.error "There exists no file with the given filename.")

/-- The report of a configuration that cannot be restored. -/
def notRestored (s : Setup) (name : String) (fault : LoadFault) : Report :=
  s.error s!"Could not restore '{name}': {fault.message}. Every parameter will be prompted."

/-- Loads the configuration of a name.  If that fails, it is as if nothing had been restored. -/
def tryLoad (s : Setup) (signature : Signature) (overrides : Arguments) (name : String) :
    Dialogue (List (String × Given) × Option String) := do
  match s.load signature overrides (s.store signature) (← Dialogue.files) name with
  | .ok given => return (given, some name)
  | .error fault =>
    if fault.isCrash then throw .crashed
    -- It goes on as if nothing had been chosen.
    Dialogue.note (.reported (s.notRestored name fault))
    return ([], none)

/-- Asks for a saved configuration if there are any: its values, and its name. -/
def restore (s : Setup) (signature : Signature) (overrides : Arguments) :
    Dialogue (List (String × Given) × Option String) := do
  let store := s.store signature
  match store.list (← Dialogue.files) with
  | [] => return ([], none)
  | latest :: others =>
    if ← s.confirm (.restore signature.name) then
      let names := latest :: others
      let q := Question.savedName signature.name latest names
      -- The list is not read again while the question is put.
      let name ← Dialogue.put q fun files answer =>
        (s.judgeSavedName store names q files answer, files)
      s.tryLoad signature overrides name
    else return ([], none)

end Setup

end Questionnaire
