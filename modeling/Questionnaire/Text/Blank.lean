namespace Questionnaire.Text

/-!
# Blank characters

Every place that trims, splits or skips blanks uses one set of characters, the code points
with the Unicode property `White_Space`.  This module fixes the set and the four things done
with it.

- `isBlank`: membership in the set.
- `trimStart`, `trimEnd`, `trim`: drop blanks at the ends of a text.
- `words`: the maximal runs without a blank.
- `trimmed`, `collapsed`: the same on whole strings.
-/

/-! ### The set -/

/-- The code points with the property `White_Space`. -/
def isBlank (c : Char) : Bool :=
  let n := c.toNat
  (0x09 ≤ n && n ≤ 0x0D) || n == 0x20 || n == 0x85 || n == 0xA0 || n == 0x1680
    || (0x2000 ≤ n && n ≤ 0x200A) || n == 0x2028 || n == 0x2029 || n == 0x202F
    || n == 0x205F || n == 0x3000

/-! ### Trimming -/

/-- Drops the blanks at the start. -/
def trimStart (cs : List Char) : List Char := cs.dropWhile isBlank

/-- Drops the blanks at the end. -/
def trimEnd (cs : List Char) : List Char := (cs.reverse.dropWhile isBlank).reverse

/-- Drops the blanks at both ends. -/
def trim (cs : List Char) : List Char := trimEnd (trimStart cs)

/-- A string without the blanks at its ends. -/
def trimmed (s : String) : String := String.ofList (trim s.toList)

/-! ### Words -/

/-- The maximal runs of characters that are not blank, in order. -/
def words : List Char → List (List Char)
  | [] => []
  | c :: rest =>
    if isBlank c then words rest
    else match rest, words rest with
      | d :: _, w :: ws => if isBlank d then [c] :: w :: ws else (c :: w) :: ws
      | _, ws => [c] :: ws

/-- The words of a string, joined by single spaces. -/
def collapsed (s : String) : String :=
  String.ofList (List.intercalate [' '] (words s.toList))

end Questionnaire.Text
