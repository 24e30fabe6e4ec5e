import Questionnaire.Number.Read
import Questionnaire.Toml.Basic
import Questionnaire.Value.Json

namespace Questionnaire.Toml

/-!
# Documents as data

- `entries?`: the entries of a table; a date counts as a table with one entry.
- `fields?`: the values of named fields.
- `hasNarrowIntegers`: no integer has more than 64 bits.
- `toJson?`: the JSON form of a value.
-/

/-- The one key of a date that counts as a table. -/
def datetimeKey : String := "$__toml_private_datetime"

/-- The entries of a table. -/
def entries? : Toml → Option Entries
  | .table _ entries => some entries
  | .datetime text => some [(datetimeKey, .string text)]
  | _ => none

/-- The values of fields with given names: a table has them by name, an array in order. -/
def fields? (names : List String) : Toml → Option Entries
  | .array _ items => some (names.zip items)
  | value => entries? value

/-! ### Integers -/

mutual

/-- No integer in a value has more than 64 bits. -/
def hasNarrowIntegers : Toml → Bool
  | .integer i => (Number.int64OfInt? i).isSome
  | .array _ items => allNarrow items
  | .table _ entries => entriesNarrow entries
  | _ => true

/-- No integer in the items of an array has more than 64 bits. -/
def allNarrow : List Toml → Bool
  | [] => true
  | item :: rest => hasNarrowIntegers item && allNarrow rest

/-- No integer in the entries of a table has more than 64 bits. -/
def entriesNarrow : List (String × Toml) → Bool
  | [] => true
  | (_, value) :: rest => hasNarrowIntegers value && entriesNarrow rest

end

/-! ### JSON -/

/-- The JSON form of an integer, if 64 bits hold it, with or without a sign. -/
def integerJson? (i : Int) : Option Json :=
  match Number.int64OfInt? i with
  | some n => some (.int n)
  | none => if i < 0 then none else (Json.Large.ofNat? i.toNat).map Json.large

mutual

/-- The JSON form of a value. -/
def toJson? : Toml → Option Json
  | .string s => some (.str s)
  | .integer i => integerJson? i
  | .float x => some (Json.ofFloat x)
  | .boolean b => some (.bool b)
  | .datetime text => some (.object [(datetimeKey, .str text)])
  | .array _ items => (itemsJson? items).map Json.array
  | .table _ entries => (entriesJson? entries).map Json.object

/-- The JSON forms of the items of an array. -/
def itemsJson? : List Toml → Option (List Json)
  | [] => some []
  | item :: rest => match toJson? item, itemsJson? rest with
    | some json, some more => some (json :: more)
    | _, _ => none

/-- The JSON forms of the entries of a table. -/
def entriesJson? : List (String × Toml) → Option (List (String × Json))
  | [] => some []
  | (key, value) :: rest => match toJson? value, entriesJson? rest with
    | some json, some more => some ((key, json) :: more)
    | _, _ => none

end

end Questionnaire.Toml
