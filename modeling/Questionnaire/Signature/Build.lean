import Questionnaire.Signature.Basic
import Questionnaire.Signature.Doc
import Questionnaire.ValueType.Read
import Questionnaire.ValueType.Written

namespace Questionnaire.Signature

/-!
# Building signatures

A signature is declared step by step and checked as a whole.

- `Step`: a step of a declaration.
- `Draft`: what the steps amount to, before anything is checked.
- `BuildError`: why a declaration is no signature, with `BuildError.message`.
- `build`: the signature of a declaration.
-/

/-! ### Declarations -/

/-- A step of a declaration. -/
inductive Step where
  /-- The documentation of the function. -/
  | doc (text : String)
  /-- A parameter with the text of its type. -/
  | param (name type : String) (default : Option Value)
  /-- The documentation of the latest parameter. -/
  | paramDoc (text : String)

/-- A parameter as declared. -/
structure ParameterDraft where
  name : String
  type : String
  default : Option Value
  doc : Option String

/-- A declaration so far; the latest parameter comes first. -/
structure Draft where
  doc : Option String
  params : List ParameterDraft
  /-- Documentation was given to the latest parameter before there was any. -/
  misplacedDoc : Bool

/-- One more step. -/
def Draft.add (d : Draft) : Step → Draft
  | .doc text => { d with doc := some text }
  | .param name type default => { d with params := ⟨name, type, default, none⟩ :: d.params }
  | .paramDoc text => match d.params with
    | [] => { d with misplacedDoc := true }
    | p :: rest => { d with params := { p with doc := some text } :: rest }

/-- What the steps amount to. -/
def Draft.ofSteps (steps : List Step) : Draft := steps.foldl Draft.add ⟨none, [], false⟩

/-! ### Errors -/

/-- Why a declaration is no signature. -/
inductive BuildError where
  | docBeforeParam
  | emptyName
  | duplicate (param function : String)
  | badType (param function : String) (cause : ValueType.ReadError)
  | badDefault (default : Value) (param : String) (type : ValueType)
  | internalWithoutDefault (param : String)

/-- The wording of an error. -/
def BuildError.message : BuildError → String
  | .docBeforeParam => "param_doc called before any param"
  | .emptyName => "Function name cannot be empty"
  | .duplicate param function => s!"Duplicate parameter '{param}' in '{function}'"
  | .badType param function cause => s!"Parameter '{param}' of '{function}': {cause.message}"
  | .badDefault default param type =>
    s!"Default {default.text} of parameter '{param}' does not satisfy {type.text}"
  | .internalWithoutDefault param => s!"Internal parameter '{param}' must declare a default"

/-! ### Checking -/

/-- The parameter that a draft declares, in a function with the given name and documentation. -/
def checkParam (function : String) (doc : Option String) (p : ParameterDraft) :
    Except BuildError Parameter :=
  match ValueType.read p.type with
  | .error cause => .error (.badType p.name function cause)
  | .ok type =>
    let param : Parameter :=
      { name := p.name, type := type, default := p.default
        -- What is said about the parameter itself comes before what the function says about it.
        doc := match p.doc with
          | some text => some text
          | none => doc.bind (paramDoc? · p.name) }
    match p.default with
    | some value => if type.accepts value then .ok param else .error (.badDefault value p.name type)
    -- Nothing could be given to an internal parameter without a default.
    | none => if param.isInternal then .error (.internalWithoutDefault p.name) else .ok param

/-- The parameters that drafts declare, after parameters with the names `seen`. -/
def checkParams (function : String) (doc : Option String) (seen : List String) :
    List ParameterDraft → Except BuildError (List Parameter)
  | [] => .ok []
  | p :: rest =>
    if seen.contains p.name then .error (.duplicate p.name function)
    else match checkParam function doc p with
      | .error e => .error e
      | .ok param => (param :: ·) <$> checkParams function doc (p.name :: seen) rest

/-- The signature of a declaration. -/
def build (name : String) (steps : List Step) : Except BuildError Signature :=
  let draft := Draft.ofSteps steps
  if draft.misplacedDoc then .error .docBeforeParam
  else if name.isEmpty then .error .emptyName
  else
    let params := checkParams name draft.doc [] draft.params.reverse
    (fun params => ⟨name, draft.doc, params⟩) <$> params

end Questionnaire.Signature
