namespace Questionnaire.Number

/-!
# Powers of natural numbers

Exact work on numbers scales them by powers of the bases of their notations.

- `twoTo`: the powers of two, the base of floating point numbers.
- `tenTo`, `fiveTo`: the powers of ten, the base of written numbers, and of its odd factor.
-/

/-- A power of two. -/
abbrev twoTo (n : Nat) : Nat := Nat.pow 2 n

/-- A power of ten. -/
abbrev tenTo (n : Nat) : Nat := Nat.pow 10 n

/-- A power of five. -/
abbrev fiveTo (n : Nat) : Nat := Nat.pow 5 n

end Questionnaire.Number
