import Questionnaire.Text.Blank
import Questionnaire.Text.Split

namespace Questionnaire.Signature

/-!
# Documentation of parameters

The documentation of a function may hold a fragment for each parameter.  It stands behind a marker
with the name of the parameter and ends at the next marker.

- `afterMarker?`: the characters behind the marker of a parameter.
- `paramDoc?`: the fragment of a parameter.
-/

/-- The beginning of the marker of a parameter. -/
def markerStart : List Char := ":param".toList

/-- The texts at which a fragment ends. -/
def markers : List (List Char) := [markerStart, ":return".toList, ":raises".toList]

/-- The characters after at least one blank and a given text. -/
def afterBlanks? (text : List Char) : List Char → Option (List Char)
  | [] => none
  | c :: rest =>
    if Text.isBlank c then
      match Text.after? text rest with
      | some back => some back
      | none => afterBlanks? text rest
    else none

/-- The characters behind the marker of a parameter, if the text begins with it. -/
def markerHere? (name cs : List Char) : Option (List Char) :=
  (Text.after? markerStart cs).bind (afterBlanks? (name ++ [':']))

/-- The characters behind the first marker of a parameter. -/
def afterMarker? (name : List Char) : List Char → Option (List Char)
  | [] => none
  | c :: rest => match markerHere? name (c :: rest) with
    | some back => some back
    | none => afterMarker? name rest

/-- The fragment of a parameter, with its words joined by single spaces; there is none if the
    fragment is blank. -/
def paramDoc? (doc name : String) : Option String :=
  match afterMarker? name.toList doc.toList with
  | none => none
  | some back => match Text.words (Text.cutBefore markers back) with
    | [] => none
    | ws => some (String.ofList (List.intercalate [' '] ws))

end Questionnaire.Signature
