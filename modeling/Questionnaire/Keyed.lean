namespace Questionnaire

/-!
# Keyed lists

A keyed list holds pairs in the order in which their keys first came.  Reading takes the first
pair with the key (`List.lookup`); writing keeps one pair for each key.

- `Keyed.put`: sets the value of a key, in its place or at the end.
- `Keyed.putAll`: sets several, from left to right.
- `Keyed.sorted`: the pairs in the order of their keys.
-/

namespace Keyed

variable {α : Type}

/-- Sets the value of a key: in the place of the key if it is there, else at the end. -/
def put (key : String) (value : α) : List (String × α) → List (String × α)
  | [] => [(key, value)]
  | (k, v) :: rest => if k == key then (key, value) :: rest else (k, v) :: put key value rest

/-- Sets the values of several keys, from left to right. -/
def putAll (pairs : List (String × α)) (onto : List (String × α)) : List (String × α) :=
  pairs.foldl (fun acc (k, v) => put k v acc) onto

/-- The keys, in order. -/
def keys (pairs : List (String × α)) : List String := pairs.map (·.1)

/-- Whether there is a pair with the key. -/
def has (pairs : List (String × α)) (key : String) : Bool := (pairs.lookup key).isSome

/-- The pairs in the order of their keys, by code points. -/
def sorted (pairs : List (String × α)) : List (String × α) :=
  pairs.mergeSort fun a b => decide (a.1 ≤ b.1)

end Keyed

end Questionnaire
