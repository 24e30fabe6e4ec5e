import Questionnaire.Text.Blank
import Questionnaire.Text.Split

namespace Questionnaire.Lindenmayer

/-!
# Lindenmayer systems

A grammar derives one word from another: every letter that has a rule is replaced by the right side
of the rule, all letters at once.

- `Grammar`: a start word and the rules.
- `Grammar.read`: the grammar that two texts describe.
- `Grammar.deriveWithin`: one round of derivation, as long as the new word stays within a bound.
- `Grammar.expand`: several rounds.
-/

/-- A start word and the replacements of letters. -/
structure Grammar where
  start : List Char
  rules : List (Char × List Char)
deriving Repr, DecidableEq

/-- The symbols that steer the drawing; they have no rules. -/
def controls : List Char := ['[', ']', '+', '-']

/-! ### Reading -/

/-- Why two texts describe no grammar. -/
inductive GrammarError where
  | emptyStart
  | missingArrow (rule : String)
  | invalidLetter (text : String)
  | emptyReplacement (letter : Char)
  | secondRule (letter : Char)
  | unknownInStart (symbol : Char)
  | unknownInReplacement (symbol : Char) (replacement : String) (letter : Char)
deriving Repr, DecidableEq

/-- The wording of an error. -/
def GrammarError.message : GrammarError → String
  | .emptyStart => "The axiom cannot be empty"
  | .missingArrow rule => s!"Rule \"{rule}\" is missing '->'"
  | .invalidLetter text => s!"Variable name \"{text}\" is invalid"
  | .emptyReplacement letter => s!"The replacement of the variable \"{letter}\" is empty"
  | .secondRule letter => s!"Variable \"{letter}\" has more than one rule"
  | .unknownInStart symbol =>
    s!"Character \"{symbol}\" in axiom is neither one of [,],+,- nor a variable"
  | .unknownInReplacement symbol replacement letter =>
    s!"Character \"{symbol}\" from the replacement \"{replacement}\" of the variable \"{letter}\" "
      ++ "is neither one of [,],+,- nor a variable"

/-- A letter that may have a rule. -/
def isLetter (c : Char) : Bool := 'A' ≤ c && c ≤ 'Z'

/-- The rule that a text describes. -/
def readRule (text : List Char) : Except GrammarError (Char × List Char) :=
  -- The first arrow counts; others belong to the replacement.
  match Text.splitOnce? ['-', '>'] text with
  | none => .error (.missingArrow (String.ofList text))
  | some (left, right) =>
    match Text.trim left with
    | [letter] =>
      if !isLetter letter then .error (.invalidLetter (String.singleton letter))
      else
        let replacement := Text.trim right
        if replacement.isEmpty then .error (.emptyReplacement letter) else .ok (letter, replacement)
    | other => .error (.invalidLetter (String.ofList other))

/-- The texts of the rules: the pieces between semicolons and line ends that are not blank. -/
def ruleTexts (text : List Char) : List (List Char) :=
  ((text.splitOnP fun c => c == ';' || c == '\n').map Text.trim).filter (!·.isEmpty)

/-- The rules that texts describe, after the rules `known`. -/
def readRules (known : List (Char × List Char)) :
    List (List Char) → Except GrammarError (List (Char × List Char))
  | [] => .ok known
  | text :: rest => match readRule text with
    | .error e => .error e
    | .ok (letter, replacement) =>
      if (known.lookup letter).isSome then .error (.secondRule letter)
      else readRules (known ++ [(letter, replacement)]) rest

namespace Grammar

/-- A symbol that the grammar knows: a control symbol or a letter with a rule. -/
def knows (s : Grammar) (c : Char) : Bool := controls.contains c || (s.rules.lookup c).isSome

/-- The first symbol of a word that the grammar does not know. -/
def unknown? (s : Grammar) (word : List Char) : Option Char := word.find? fun c => !s.knows c

/-- Fails if the grammar uses a symbol that it does not know. -/
def check (s : Grammar) : Except GrammarError Grammar :=
  -- The start word is looked at before the rules, and these in their order.
  match s.unknown? s.start with
  | some c => .error (.unknownInStart c)
  | none =>
    let unknownIn := fun (letter, word) => (s.unknown? word).map fun c => (c, word, letter)
    match s.rules.findSome? unknownIn with
    | some (c, word, letter) => .error (.unknownInReplacement c (String.ofList word) letter)
    | none => .ok s

/-- The grammar with a start word and rules described by texts. -/
def read (start rules : String) : Except GrammarError Grammar := do
  let word := Text.trim start.toList
  if word.isEmpty then .error .emptyStart
  else check ⟨word, ← readRules [] (ruleTexts rules.toList)⟩

/-! ### Derivation -/

/-- What a symbol becomes in one round. -/
def replacement (s : Grammar) (c : Char) : List Char := (s.rules.lookup c).getD [c]

/-- The number of bytes that a word takes. -/
def byteSize : (word : List Char) → Nat
  | [] => 0
  | c :: rest => c.utf8Size + byteSize rest

/-- The rest of a round of derivation, given up as soon as the new word takes more than `limit`
    bytes.  What is there of the new word takes `size` bytes, and `back` holds it in reverse. -/
def deriveRest (s : Grammar) (limit size : Nat) (back : List Char) :
    List Char → Option (List Char)
  | [] => some back.reverse
  | c :: rest =>
    let new := s.replacement c
    if limit < size + byteSize new then none
    else s.deriveRest limit (size + byteSize new) (new.reverse ++ back) rest

/-- One round of derivation, if the new word takes at most `limit` bytes. -/
def deriveWithin (s : Grammar) (limit : Nat) (word : List Char) : Option (List Char) :=
  s.deriveRest limit 0 [] word

/-- Why a word could not be derived. -/
structure ExpandError where
  limit : Nat
  /-- The first round after which the word is too long. -/
  round : Nat
deriving Repr, DecidableEq

/-- The wording of an error. -/
def ExpandError.message (e : ExpandError) : String :=
  s!"Expansion exceeds {e.limit} symbols at depth {e.round}; lower the depth"

/-- A word after some more rounds of derivation, of which `done` have gone before. -/
def expandFrom (s : Grammar) (limit : Nat) (done : Nat) :
    (rounds : Nat) → (word : List Char) → Except ExpandError (List Char)
  | 0, word => .ok word
  | rounds + 1, word =>
    match s.deriveWithin limit word with
    | none => .error ⟨limit, done + 1⟩
    | some next => s.expandFrom limit (done + 1) rounds next

/-- The start word after some rounds of derivation, none of which makes it longer than `limit`
    bytes. -/
def expand (s : Grammar) (rounds limit : Nat) : Except ExpandError (List Char) :=
  s.expandFrom limit 0 rounds s.start

end Grammar

end Questionnaire.Lindenmayer
