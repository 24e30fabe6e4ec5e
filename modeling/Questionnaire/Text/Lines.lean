import Questionnaire.Text.Utf8

namespace Questionnaire.Text

/-!
# Lines

- `lines`: the lines of a text, without their ends.
- `byteLines`: the lines of bytes that are not yet known to be text, with their ends.
- `withoutBreaks`: a line without the characters of its end.
-/

/-- The pieces up to and including each item for which `isEnd` holds, and what is left after the
    last one if anything is. -/
def pieces {α : Type} (isEnd : α → Bool) : List α → List (List α)
  | [] => []
  | a :: rest =>
    if isEnd a then [a] :: pieces isEnd rest
    else match pieces isEnd rest with
      | [] => [[a]]
      | piece :: more => (a :: piece) :: more

/-- A line without its line feed and the carriage return right before it.  A line that has no line
    feed stays as it is. -/
def withoutEnd (line : List Char) : List Char :=
  match line.reverse with
  | '\n' :: '\r' :: back => back.reverse
  | '\n' :: back => back.reverse
  | _ => line

/-- The lines of a text, without their ends. -/
def lines (text : String) : List String :=
  (pieces (· == '\n') text.toList).map fun line => String.ofList (withoutEnd line)

/-- The lines of bytes, with their ends. -/
def byteLines (bytes : ByteArray) : List (List UInt8) := pieces (· == 10) bytes.toList

/-- A line without any carriage returns and line feeds at its end. -/
def withoutBreaks (line : List Char) : List Char :=
  (line.reverse.dropWhile fun c => c == '\n' || c == '\r').reverse

/-- The text of a line of bytes, without its end. -/
def ofByteLine? (line : List UInt8) : Option String :=
  (ofUtf8? ⟨line.toArray⟩).map fun text => String.ofList (withoutBreaks text.toList)

end Questionnaire.Text
