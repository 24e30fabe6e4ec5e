import Questionnaire.Text.Case
import Questionnaire.Text.Split

namespace Questionnaire

/-!
# The error log

Errors are logged unless a filter keeps them out.  A filter is a list of directives; the one with
the longest matching source decides.

- `LogFilter`: the directives.
- `LogFilter.read`: the filter that a text describes.
- `LogFilter.line?`: the line for an error, if the filter admits it.
-/

/-- Whether errors of sources that begin with a given name are logged. -/
structure LogDirective where
  source : List Char
  admits : Bool
deriving Repr, DecidableEq

/-- The directives about errors. -/
structure LogFilter where
  directives : List LogDirective
deriving Repr, DecidableEq

namespace LogFilter

/-- The names of the levels, the lowest first. -/
def levels : List String := ["off", "error", "warn", "info", "debug", "trace"]

/-- The place of a level among the levels, from its name in any case or its number. -/
def level? (text : List Char) : Option Nat :=
  let name := String.ofList (text.map Char.toLower)
  match levels.findIdx? (· == name) with
  | some n => some n
  | none => (List.range levels.length).find? fun n => toString n == name

/-- A character of the name of a source. -/
def isSourceChar (c : Char) : Bool := c.isAlphanum || c == '_' || c == ':' || c == '-' || c == '.'

/-- The directive that a text describes: a level, a source, or both. -/
def directive? (text : List Char) : Option LogDirective :=
  match level? text with
  | some n => some ⟨[], 0 < n⟩
  | none => match Text.splitOnce? ['='] text with
    | none => if text.all isSourceChar then some ⟨text, true⟩ else none
    | some (source, level) =>
      if source.all isSourceChar then (level? level).map fun n => ⟨source, 0 < n⟩ else none

/-- The filter that a text describes.  Without any directive, errors are logged. -/
def read (text : String) : LogFilter :=
  let parts := (text.toList.splitOnP (· == ',')).filter (!·.isEmpty)
  match parts.filterMap directive? with
  | [] => ⟨[⟨[], true⟩]⟩
  | directives => ⟨directives⟩

/-- The more specific of two directives; of two for one source the later one counts. -/
def moreSpecific (best : Option LogDirective) (d : LogDirective) : Option LogDirective :=
  match best with
  | none => some d
  | some b => if b.source.length ≤ d.source.length then some d else some b

/-- Whether errors of a source are logged. -/
def admits (f : LogFilter) (source : String) : Bool :=
  let matching := f.directives.filter fun d => (Text.after? d.source source.toList).isSome
  match matching.foldl moreSpecific none with
  | some d => d.admits
  | none => false

/-- The line for an error of a source, if the filter admits it. -/
def line? (f : LogFilter) (source message : String) : Option String :=
  if f.admits source then some s!"ERROR {source}: {message}" else none

end LogFilter

end Questionnaire
