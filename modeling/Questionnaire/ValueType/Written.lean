import Questionnaire.Value.Written
import Questionnaire.ValueType.Basic

namespace Questionnaire.ValueType

/-!
# Written types

Types are written as a name with arguments in brackets.

- `writtenBound`: a bound of a range; an integral one has no point.
- `written`: the characters of a type; `text` is the same as a string.
-/

/-- A bound of a range; an open bound is written as the text `whenOpen`. -/
def writtenBound (whenOpen : List Char) : Option Float → List Char
  | some x =>
    if Number.isIntegral x then
      Text.signedDecimal
        (Number.clampedInteger Int64.minValue.toInt Int64.maxValue.toInt x)
    else Number.plain x
  | none => whenOpen

/-- A name with arguments in brackets. -/
def applied (name : String) (arguments : List Char) : List Char :=
  name.toList ++ '[' :: arguments ++ [']']

mutual

/-- The characters of a type. -/
def written : ValueType → List Char
  | .any => "Any".toList
  | .int => "int".toList
  | .float => "float".toList
  | .bool => "bool".toList
  | .str => "str".toList
  | .noneType => "None".toList
  | .function => "Callable".toList
  | .sequence item => applied "List" (written item)
  | .tuple types => applied "Tuple" (writtenEach types)
  | .union members => applied "Union" (writtenEach members)
  | .optional inner => applied "Optional" (written inner)
  | .literal allowed => applied "Literal" (Value.writtenItems allowed)
  | .ranged inner low high =>
    applied "Annotated" (written inner ++ ", ValueRange(".toList ++ writtenBound "-∞".toList low
      ++ ", ".toList ++ writtenBound "∞".toList high ++ [')'])

/-- The characters of several types, with a comma and a space between them. -/
def writtenEach : List ValueType → List Char
  | [] => []
  | [t] => written t
  | t :: rest => written t ++ ',' :: ' ' :: writtenEach rest

end

/-- A type as a string. -/
def text (t : ValueType) : String := String.ofList t.written

/-- A type is put into texts as it is written. -/
instance : ToString ValueType := ⟨text⟩

end Questionnaire.ValueType
