import Questionnaire.Number.Read
import Questionnaire.Text.Split
import Questionnaire.ValueType.Arguments
import Questionnaire.ValueType.Basic

namespace Questionnaire.ValueType

/-!
# Reading types

- `ReadError`: why a text names no type, with `ReadError.message`.
- `readLiteral`: a member of a literal type.
- `readRange?`: the two texts of an annotated range.
- `read`: the type that a text names.
-/

/-! ### Errors -/

/-- Why a text names no type. -/
inductive ReadError where
  | empty
  | unknown (name : String)
  | unknownGeneric (name : String)
  | unclosed (text : String)
  | split (arguments : String) (cause : SplitError)
  /-- A type of one argument has another number of them. -/
  | notOneArgument (name text : String)
  | emptyUnion (text : String)
  | notTypeAndRange (text : String)
  | unsupportedRange (text : String)
  | invalidBound (text : String)
  | unsupportedLiteral (text : String)
deriving Repr, DecidableEq

/-- The wording of an error. -/
def ReadError.message : ReadError → String
  | .empty => "Empty type string"
  | .unknown name => s!"Unknown type '{name}'"
  | .unknownGeneric name => s!"Unknown generic type '{name}'"
  | .unclosed text => s!"Unclosed bracket in type: {text}"
  | .split arguments .unopened => s!"Unbalanced brackets in '{arguments}'"
  | .split arguments .unclosed => s!"Unbalanced brackets or quotes in '{arguments}'"
  | .split arguments .emptyArgument => s!"Empty type argument in '{arguments}'"
  | .notOneArgument name text => s!"{name} takes exactly one type argument: {text}"
  | .emptyUnion text => s!"Union requires at least one member: {text}"
  | .notTypeAndRange text => s!"Annotated takes a type and a ValueRange: {text}"
  | .unsupportedRange text => s!"Unsupported annotation '{text}'"
  | .invalidBound text => s!"Invalid range bound '{text}'"
  | .unsupportedLiteral text => s!"Unsupported literal '{text}'"

/-! ### Simple types -/

/-- The type of a name without arguments. -/
def readSimple (name : String) : Except ReadError ValueType :=
  match name with
  | "int" => .ok .int
  | "float" => .ok .float
  | "bool" => .ok .bool
  | "str" | "string" => .ok .str
  | "None" | "NoneType" => .ok .noneType
  | "Any" => .ok .any
  | "Callable" | "function" => .ok .function
  | "List" | "list" | "Tuple" | "tuple" | "Sequence" | "Iterable" => .ok (.sequence .any)
  | "" => .error .empty
  | other => .error (.unknown other)

/-! ### Literals -/

/-- The characters between two quotes of one kind around a text. -/
def unquote? (cs : List Char) : Option (List Char) :=
  match cs with
  | [] => none
  | q :: rest =>
    if (q == '"' || q == '\x27') && rest.getLast? == some q then some rest.dropLast else none

/-- The value of a member of a literal type. -/
def readLiteral (argument : List Char) : Except ReadError Value :=
  let cs := Text.trim argument
  match unquote? cs with
  | some content => .ok (.str (String.ofList content))
  | none =>
    let token := String.ofList cs
    -- A quoted text never stands for a constant, and a bare one never for a string.
    if token == "True" || token == "true" then .ok (.bool true)
    else if token == "False" || token == "false" then .ok (.bool false)
    else if token == "None" then .ok .none
    else match Number.readInt? cs, Number.readFloat? cs with
      | some i, _ => .ok (.int i)
      | none, some x => .ok (.float x)
      | none, none => .error (.unsupportedLiteral token)

/-! ### Ranges -/

/-- The texts of the two bounds of an annotated range: exactly one comma stands between the
    parentheses, with at least one character on either side. -/
def readRange? (cs : List Char) : Option (List Char × List Char) :=
  match (Text.after? "ValueRange(".toList cs).bind (Text.before? [')']) with
  | none => none
  | some content =>
    let low := content.takeWhile (· != ',')
    match content.dropWhile (· != ',') with
    | [] => none
    -- There are exactly two bounds, and neither of them is empty.
    | _ :: high => if low.isEmpty || high.isEmpty || high.contains ',' then none
      else some (low, high)

/-- Drops quotes of either kind at both ends. -/
def trimQuotes (cs : List Char) : List Char :=
  let isQuote := fun c => c == '"' || c == '\x27'
  ((cs.dropWhile isQuote).reverse.dropWhile isQuote).reverse

/-- A bound of a range, or none if the range is open there. -/
def readBound (cs : List Char) : Except ReadError (Option Float) :=
  let content := trimQuotes (Text.trim cs)
  let token := String.ofList content
  if token == "∞" || token == "inf" || token == "-∞" || token == "-inf" then .ok none
  else match Number.readFloat? content with
    | some x => .ok (some x)
    | none => .error (.invalidBound token)

/-! ### Types with arguments -/

/-- The one type among the arguments of `name`, read by `readArgument`. -/
def readOne (readArgument : List Char → Except ReadError ValueType) (name text : String) :
    List (List Char) → Except ReadError ValueType
  | [argument] => readArgument argument
  | _ => .error (.notOneArgument name text)

/-- The type of a name with arguments, which are read by `readArgument`; `text` is the whole text
    for messages. -/
def readGeneric (readArgument : List Char → Except ReadError ValueType) (name text : String)
    (arguments : List (List Char)) : Except ReadError ValueType :=
  match name with
  | "List" | "list" | "Sequence" | "Iterable" =>
    .sequence <$> readOne readArgument name text arguments
  | "Tuple" | "tuple" => match arguments with
    -- Three dots stand for any number of items.
    | [inner, ['.', '.', '.']] => .sequence <$> readArgument inner
    | _ => .tuple <$> arguments.mapM readArgument
  | "Union" =>
    if arguments.isEmpty then .error (.emptyUnion text)
    else .union <$> arguments.mapM readArgument
  | "Optional" => .optional <$> readOne readArgument name text arguments
  | "Literal" => .literal <$> arguments.mapM readLiteral
  | "Annotated" => match arguments with
    | [inner, range] => match readRange? (Text.trim range) with
      | none => .error (.unsupportedRange (String.ofList (Text.trim range)))
      | some (low, high) => do
        let inner ← readArgument inner
        let low ← readBound low
        let high ← readBound high
        .ok (.ranged inner low high)
    | _ => .error (.notTypeAndRange text)
  | other => .error (.unknownGeneric other)

/-- The type that a text names; `depth` bounds the nesting of brackets. -/
def readWithin : (depth : Nat) → List Char → Except ReadError ValueType
  | 0, cs => readSimple (String.ofList (Text.trim cs))
  | depth + 1, cs =>
    let text := Text.trim cs
    match text.dropWhile (· != '[') with
    | [] => readSimple (String.ofList text)
    | _ :: rest =>
      -- Whatever stands behind the last bracket leaves it open.
      if rest.getLast? != some ']' then .error (.unclosed (String.ofList cs))
      else
        let content := rest.dropLast
        match split content with
        | .error cause => .error (.split (String.ofList content) cause)
        | .ok arguments =>
          let name := String.ofList (Text.trim (text.takeWhile (· != '[')))
          readGeneric (readWithin depth) name (String.ofList cs) arguments

/-- The type that a text names.  Every argument is shorter than the text around it, so the length
    bounds the nesting. -/
def read (text : String) : Except ReadError ValueType :=
  readWithin text.toList.length text.toList

end Questionnaire.ValueType
