namespace Questionnaire.Text

/-!
# Taking texts apart

- `after?`, `before?`: what is left of a text without a given beginning or end.
- `splitOnce?`: the two sides of the first occurrence of a separator.
- `cutBefore`: the characters before the first of several stops.
- `replaceAll`: puts one text in the place of every occurrence of another.
-/

/-- The characters after a given beginning. -/
def after? : (start : List Char) → List Char → Option (List Char)
  | [], cs => some cs
  | a :: start, c :: cs => if a == c then after? start cs else none
  | _ :: _, [] => none

/-- The characters before a given end. -/
def before? (finish cs : List Char) : Option (List Char) :=
  (after? finish.reverse cs.reverse).map List.reverse

/-- The characters before and after the first occurrence of a separator. -/
def splitOnce? (separator : List Char) : List Char → Option (List Char × List Char)
  | [] => if separator.isEmpty then some ([], []) else none
  | c :: rest => match after? separator (c :: rest) with
    | some back => some ([], back)
    | none => (splitOnce? separator rest).map fun (front, back) => (c :: front, back)

/-- The characters before the first place where one of the stops begins. -/
def cutBefore (stops : List (List Char)) : List Char → List Char
  | [] => []
  | c :: rest =>
    if stops.any fun stop => (after? stop (c :: rest)).isSome then []
    else c :: cutBefore stops rest

/-- Puts `new` in the place of every occurrence of `old`, from left to right; the first `skip`
    characters belong to an occurrence already replaced. -/
def replaceFrom (old new : List Char) (skip : Nat) : List Char → List Char
  | [] => []
  | c :: rest => match skip with
    | skip + 1 => replaceFrom old new skip rest
    | 0 =>
      if (after? old (c :: rest)).isSome then new ++ replaceFrom old new (old.length - 1) rest
      else c :: replaceFrom old new 0 rest

/-- Puts `new` in the place of every occurrence of `old`, which is not empty. -/
def replaceAll (old new cs : List Char) : List Char := replaceFrom old new 0 cs

end Questionnaire.Text
