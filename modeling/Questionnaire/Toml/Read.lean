import Questionnaire.Toml.Scalar

namespace Questionnaire.Toml

/-!
# Reading documents

- `readPath`: a key, or several with points between them.
- `readValue`: a value.
- `readStatement`: a header, or a key with its value.
- `read?`: the entries of a whole document.
-/

/-! ### Blanks, comments and line ends -/

/-- Drops the blanks within a line. -/
def skipBlanks (cs : List Char) : List Char := cs.dropWhile isBlankChar

/-- Drops blanks, comments and line ends; `comment` tells whether the text starts inside a comment.
    Fails at a character that no comment may hold. -/
def skipVoid : (comment : Bool) → List Char → Option (List Char)
  | _, [] => some []
  | comment, c :: rest =>
    if isBreakChar c then skipVoid false rest
    else if comment then if isTextChar c then skipVoid true rest else none
    else if isBlankChar c then skipVoid false rest
    else if c == '#' then skipVoid true rest
    else some (c :: rest)

/-- Drops the rest of a line that holds nothing but blanks and a comment, with its end. -/
def skipLine? (cs : List Char) : Option (List Char) :=
  match skipBlanks cs with
  | [] => some []
  | c :: rest => if isBreakChar c || c == '#' then skipVoid (c == '#') rest else none

/-! ### Keys -/

/-- The key at the front of a text. -/
def readKey (cs : List Char) : Found String :=
  match cs with
  -- Three quotes open a string on several lines, which is no key.
  | '"' :: '"' :: '"' :: _ => none
  | '\x27' :: '\x27' :: '\x27' :: _ => none
  | '"' :: _ => readQuoted cs
  | '\x27' :: _ => readQuoted cs
  | _ =>
    let key := cs.takeWhile isBareChar
    if key.isEmpty then none else some (String.ofList key, cs.dropWhile isBareChar)

/-- The keys with points between them at the front of a text: those before the last one, and the
    last one.  `fuel` bounds their number. -/
def readPath : (fuel : Nat) → List Char → Found (List String × String)
  | 0, _ => none
  | fuel + 1, cs => match readKey (skipBlanks cs) with
    | none => none
    | some (key, rest) => match skipBlanks rest with
      | '.' :: rest =>
        (readPath fuel rest).map fun ((path, last), rest) => ((key :: path, last), rest)
      | rest => some (([], key), rest)

/-! ### Values -/

/-- The number of brackets that may be open at once. -/
def deepest : Nat := 80

mutual

/-- The value at the front of a text; `levels` is the number of brackets that may still be
    opened. -/
def readValue : (fuel levels : Nat) → List Char → Found Toml
  | 0, _, _ => none
  | fuel + 1, levels, cs => match cs with
    | '[' :: rest => match levels with
      | 0 => none
      | levels + 1 =>
        (readItems fuel levels rest).map fun (items, rest) => (.array false items, rest)
    | '\x7b' :: rest => match levels with
      | 0 => none
      | levels + 1 =>
        (readFields fuel levels [] rest).map fun (entries, rest) => (.table .inline entries, rest)
    | c :: _ =>
      if c == '"' || c == '\x27' then (readQuoted cs).map fun (s, rest) => (.string s, rest)
      else readScalar cs
    | [] => none

/-- The items of an array up to its bracket. -/
def readItems : (fuel levels : Nat) → List Char → Found (List Toml)
  | 0, _, _ => none
  | fuel + 1, levels, cs => match skipVoid false cs with
    | none => none
    | some (']' :: rest) => some ([], rest)
    | some cs => match readValue fuel levels cs with
      | none => none
      | some (item, rest) => match skipVoid false rest with
        | some (',' :: rest) =>
          (readItems fuel levels rest).map fun (items, rest) => (item :: items, rest)
        | some (']' :: rest) => some ([item], rest)
        | _ => none

/-- The entries of a table up to its brace, after those already read. -/
def readFields : (fuel levels : Nat) → (entries : Entries) → List Char → Found Entries
  | 0, _, _, _ => none
  | fuel + 1, levels, entries, cs => match skipVoid false cs with
    | none => none
    | some ('\x7d' :: rest) => some (entries, rest)
    | some cs => match readEntry fuel levels cs with
      | none => none
      | some (((path, key), value), rest) => match define path key value .inline entries with
        | none => none
        | some entries => match skipVoid false rest with
          | some (',' :: rest) => readFields fuel levels entries rest
          | some ('\x7d' :: rest) => some (entries, rest)
          | _ => none

/-- A key with its value. -/
def readEntry : (fuel levels : Nat) → List Char → Found ((List String × String) × Toml)
  | 0, _, _ => none
  | fuel + 1, levels, cs => match readPath (cs.length + 1) cs with
    | some (key, '=' :: rest) =>
      (readValue fuel levels (skipBlanks rest)).map fun (value, rest) => ((key, value), rest)
    | _ => none

end

/-! ### Documents -/

/-- A document so far: its entries, and the path of the table that keys go to. -/
structure Draft where
  entries : Entries
  here : List String

/-- The document with one more entry in the present table. -/
def Draft.define (d : Draft) (path : List String) (key : String) (value : Toml) : Option Draft :=
  (changeAt false (Toml.define path key value) d.here .header d.entries).map fun entries =>
    { d with entries }

/-- A header after its first bracket: the path of a table, or with two brackets that of an array. -/
def readHeader (d : Draft) (cs : List Char) : Found Draft :=
  let twofold := cs.head? == some '['
  let cs := if twofold then cs.drop 1 else cs
  match readPath (cs.length + 1) cs with
  | none => none
  | some ((path, key), rest) =>
    let opened := if twofold then openItem path key d.entries else openTable path key d.entries
    match opened, twofold, rest with
    | some entries, true, ']' :: ']' :: rest => some (⟨entries, path ++ [key]⟩, rest)
    | some entries, false, ']' :: rest => some (⟨entries, path ++ [key]⟩, rest)
    | _, _, _ => none

/-- A header, or a key with its value. -/
def readStatement (d : Draft) (cs : List Char) : Found Draft :=
  match cs with
  | '[' :: rest => readHeader d rest
  | _ => match readEntry (2 * cs.length + 2) deepest cs with
    | none => none
    | some (((path, key), value), rest) => (d.define path key value).map fun d => (d, rest)

/-- The document that the statements of a text add to; `fuel` bounds their number. -/
def readStatements : (fuel : Nat) → Draft → List Char → Option Draft
  | 0, _, _ => none
  | fuel + 1, d, cs => match skipVoid false cs with
    | none => none
    | some [] => some d
    | some cs => match readStatement d cs with
      | none => none
      | some (d, rest) => (skipLine? rest).bind (readStatements fuel d)

/-- The message for a text that is no document. -/
def malformedMessage : String := "TOML parse error"

/-- Whether every carriage return stands before a line feed. -/
def hasWholeBreaks : List Char → Bool
  | [] => true
  | '\r' :: rest => rest.head? == some '\n' && hasWholeBreaks rest
  | _ :: rest => hasWholeBreaks rest

/-- The entries of a document.  A mark of the byte order at its start does not count. -/
def read? (text : String) : Option Entries :=
  let cs := match text.toList with
    | '\uFEFF' :: rest => rest
    | cs => cs
  if hasWholeBreaks cs then (readStatements (cs.length + 1) ⟨[], []⟩ cs).map Draft.entries else none

end Questionnaire.Toml
