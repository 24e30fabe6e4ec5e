namespace Questionnaire

/-!
# Reports

A report is a message for the user.  A message that passes stays visible for a while; one without
a timeout stays until it is dismissed.
-/

/-- A length of time. -/
structure Duration where
  nanoseconds : Nat
deriving Repr, DecidableEq

namespace Duration

/-- A number of milliseconds. -/
def ofMilliseconds (n : Nat) : Duration := ⟨n * 1000000⟩

/-- The whole milliseconds in a length of time. -/
def toMilliseconds (d : Duration) : Nat := d.nanoseconds / 1000000

end Duration

/-- A message for the user. -/
structure Report where
  title : String
  message : String
  timeout : Option Duration
deriving Repr, DecidableEq

namespace Report

/-- A report of an error, which passes. -/
def error (message : String) (timeout : Duration) : Report := ⟨"Error", message, some timeout⟩

/-- A report on one line, as a terminal shows it. -/
def line (r : Report) : String := r.title ++ ": " ++ r.message

end Report

end Questionnaire
