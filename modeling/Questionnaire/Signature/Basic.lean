import Questionnaire.ValueType.Basic

namespace Questionnaire

/-!
# Signatures

The parameters of a function, in the order in which they are asked for.

- `Parameter`: a name, a declared type, and perhaps a default value and documentation.
- `Signature`: a function with its parameters.
-/

/-- A declared parameter. -/
structure Parameter where
  name : String
  type : ValueType
  default : Option Value
  doc : Option String

namespace Parameter

/-- Internal parameters are neither asked for nor saved. -/
def isInternal (p : Parameter) : Bool := p.name.toList.head? == some '_'

end Parameter

/-- A function with its parameters. -/
structure Signature where
  name : String
  doc : Option String
  params : List Parameter

namespace Signature

/-- The parameter of a name. -/
def param? (s : Signature) (name : String) : Option Parameter :=
  s.params.find? fun p => p.name == name

end Signature

end Questionnaire
