import Questionnaire.Keyed

namespace Questionnaire

/-!
# TOML documents

A document is a table of values under keys, in the order in which the keys come.

- `Toml`: a value.
- `Toml.Origin`: how a table came to be, which decides what may still be added to it.
- `Toml.define`, `Toml.openTable`, `Toml.openItem`: the three ways in which a document grows.
-/

namespace Toml

/-- How a table came to be. -/
inductive Origin where
  /-- A header names the table itself; so it is with the document as a whole. -/
  | header
  /-- A header names a table below it. -/
  | implied
  /-- A dotted key leads through it. -/
  | dotted
  /-- It stands between braces, and is complete. -/
  | inline
deriving Repr, DecidableEq

end Toml

/-- A value of a document. -/
inductive Toml where
  | string (s : String)
  | integer (i : Int)
  | float (x : Float)
  | boolean (b : Bool)
  | datetime (text : String)
  /-- An array; one made by headers takes more items. -/
  | array (byHeaders : Bool) (items : List Toml)
  | table (origin : Toml.Origin) (entries : List (String × Toml))
deriving Inhabited

namespace Toml

/-- The keys of a table with their values. -/
abbrev Entries := List (String × Toml)

/-! ### Growing -/

/-- Changes the entries of the table that a path leads to; `origin` is that of the first table.
    Missing tables on the way are made.  An array made by headers stands for its last item.  A
    dotted key does not lead through a table that a header names. -/
def changeAt (dotted : Bool) (change : Origin → Entries → Option Entries) :
    (path : List String) → (origin : Origin) → Entries → Option Entries
  | [], origin, entries => change origin entries
  | key :: path, _, entries =>
    match entries.lookup key with
    | none =>
      let origin := if dotted then Origin.dotted else .implied
      (changeAt dotted change path origin []).map fun inner =>
        Keyed.put key (.table origin inner) entries
    | some (.table origin inner) =>
      -- A table between braces is complete, and a dotted key does not go into what a header names.
      if origin == .inline || (dotted && origin == .header) then none
      else (changeAt dotted change path origin inner).map fun inner =>
        Keyed.put key (.table origin inner) entries
    -- In an array that headers make, the last table is the one that is meant.
    | some (.array true items) => match items.reverse with
      | .table origin inner :: earlier =>
        (changeAt dotted change path origin inner).map fun inner =>
          Keyed.put key (.array true (earlier.reverse ++ [.table origin inner])) entries
      | _ => none
    | some _ => none

/-- Sets the value of a key in a table of which the key is not yet part.  Only a dotted key adds to
    a table that dotted keys have made. -/
def insertNew (dotted : Bool) (key : String) (value : Toml) (origin : Origin) (entries : Entries) :
    Option Entries :=
  if (origin == .dotted) != dotted || Keyed.has entries key then none
  else some (entries ++ [(key, value)])

/-- Sets the value of a dotted key, given by the keys before the last one and the last one. -/
def define (path : List String) (key : String) (value : Toml) (origin : Origin)
    (entries : Entries) : Option Entries :=
  changeAt true (insertNew (!path.isEmpty) key value) path origin entries

/-- Opens the table of a header.  It is new, or was implied before. -/
def openTable (path : List String) (key : String) (entries : Entries) : Option Entries :=
  changeAt false (fun _ entries => match entries.lookup key with
    | none => some (entries ++ [(key, .table .header [])])
    | some (.table .implied inner) =>
      some (entries.filter (·.1 != key) ++ [(key, .table .header inner)])
    | some _ => none) path .header entries

/-- Opens one more item of an array made by headers. -/
def openItem (path : List String) (key : String) (entries : Entries) : Option Entries :=
  changeAt false (fun _ entries => match entries.lookup key with
    | none => some (entries ++ [(key, .array true [.table .header []])])
    | some (.array true items) =>
      some (Keyed.put key (.array true (items ++ [.table .header []])) entries)
    | some _ => none) path .header entries

end Toml

end Questionnaire
