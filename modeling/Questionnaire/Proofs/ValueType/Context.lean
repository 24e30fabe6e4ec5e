import Mathlib.Data.List.Basic
import Questionnaire.ValueType.Basic

namespace Questionnaire.ValueType

/-!
# Types inside other types

Some types can be written in several ways: an optional type is a union with none, and the members of
a union may be nested, repeated and reordered.  Wherever such a type stands inside another one, it
makes no difference how it is written.

* `Context` — a type with a hole at some depth, and `Context.fill`, which fills it.
* `Restates` — the ways of writing a type.
* `Interchangeable` — types that accept the same values, and may be left out of a tuple alike.
* `Interchangeable.fill` — this is kept by every context.
* `accepts_fill` — so it does not matter how the type in a hole is written.
-/

/-! ### Specification -/

/-- A type with a hole at some depth. -/
inductive Context where
  | hole
  | sequence (item : Context)
  | tuple (before : List ValueType) (item : Context) (after : List ValueType)
  | union (before : List ValueType) (member : Context) (after : List ValueType)
  | optional (inner : Context)
  | ranged (inner : Context) (low high : Option Float)

/-- The type with another one in its hole. -/
def Context.fill : Context → ValueType → ValueType
  | .hole, t => t
  | .sequence item, t => .sequence (item.fill t)
  | .tuple before item after, t => .tuple (before ++ item.fill t :: after)
  | .union before member after, t => .union (before ++ member.fill t :: after)
  | .optional inner, t => .optional (inner.fill t)
  | .ranged inner low high, t => .ranged (inner.fill t) low high

/-- Two ways of writing one type. -/
inductive Restates : ValueType → ValueType → Prop where
  /-- An optional type is a union with none. -/
  | optional (inner : ValueType) : Restates (.optional inner) (.union [inner, .noneType])
  /-- A union of one type is that type. -/
  | single (t : ValueType) : Restates (.union [t]) t
  /-- A union among the members of a union stands for its own members. -/
  | nested (before members after : List ValueType) :
    Restates (.union (before ++ .union members :: after)) (.union (before ++ members ++ after))
  /-- The members of a union may be repeated and stand in any order. -/
  | members {members others : List ValueType} (h : ∀ t, t ∈ members ↔ t ∈ others) :
    Restates (.union members) (.union others)

/-- Types that can stand for each other inside every other type.  Accepting the same values is not
    enough for that: elements of a tuple are also counted by whether they may be left out. -/
structure Interchangeable (t u : ValueType) : Prop where
  optional : t.isOptional = u.isOptional
  accepts : ∀ v, t.accepts v = u.accepts v

/-! ### Unions -/

/-- A union is optional if one of its members is. -/
theorem isOptional_union (members : List ValueType) :
    (ValueType.union members).isOptional = members.any isOptional := by
  rw [isOptional]
  induction members with
  | nil => rfl
  | cons t members ih => rw [anyOptional, ih, List.any_cons]

/-- A union accepts what one of its members does. -/
theorem accepts_union (members : List ValueType) (v : Value) :
    (ValueType.union members).accepts v = members.any (·.accepts v) := by
  rw [ValueType.accepts]
  induction members with
  | nil => rfl
  | cons t members ih => rw [acceptsSome, ih, List.any_cons]

/-- An optional type accepts nothing at all and what the type inside accepts. -/
theorem accepts_optional (inner : ValueType) (v : Value) :
    (ValueType.optional inner).accepts v = (ValueType.noneType.accepts v || inner.accepts v) := by
  cases v <;> simp [ValueType.accepts]

/-- What holds of a union if it holds of a member is not changed by another way of writing the
    members. -/
theorem Interchangeable.ofMembers {members others : List ValueType}
    (h : ∀ p : ValueType → Bool, (∀ inner, p (.union inner) = inner.any p) →
      members.any p = others.any p) :
    Interchangeable (.union members) (.union others) where
  optional := by
    rw [isOptional_union, isOptional_union]
    exact h _ isOptional_union
  accepts v := by
    rw [accepts_union, accepts_union]
    exact h _ fun inner => accepts_union inner v

/-- All ways of writing a type can stand for each other. -/
theorem Restates.interchangeable {t u : ValueType} (h : Restates t u) : Interchangeable t u := by
  cases h with
  -- Each way to restate a type keeps whether it is optional, and what it accepts.
  | optional inner =>
    constructor
    · rw [isOptional_union]
      simp [isOptional]
    · intro v
      rw [accepts_optional, accepts_union, Bool.or_comm]
      simp
  | single =>
    constructor
    · simp [isOptional_union]
    · simp [accepts_union]
  | nested before members after =>
    apply Interchangeable.ofMembers
    intro p hunion
    simp [hunion]
  | members hsame =>
    apply Interchangeable.ofMembers
    intro p _
    rw [Bool.eq_iff_iff, List.any_eq_true, List.any_eq_true]
    simp only [hsame]

/-! ### Contexts -/

namespace Interchangeable

variable {t u : ValueType}

/-- Sequences of interchangeable types are interchangeable. -/
theorem sequence (h : Interchangeable t u) : Interchangeable (.sequence t) (.sequence u) where
  optional := rfl
  accepts v := by
    cases v <;> simp [ValueType.accepts, h.accepts]

/-- Of interchangeable types in a tuple, either both have to be there or neither. -/
theorem requiredCount_eq (h : Interchangeable t u) (before after : List ValueType) :
    requiredCount (before ++ t :: after) = requiredCount (before ++ u :: after) := by
  simp [requiredCount, List.countP_cons, h.optional]

/-- Among the types of a tuple, interchangeable ones accept the same items. -/
theorem acceptsEach_eq (h : Interchangeable t u) (before after : List ValueType)
    (values : List Value) :
    acceptsEach (before ++ t :: after) values = acceptsEach (before ++ u :: after) values := by
  induction before generalizing values with
  | nil => cases values <;> simp [acceptsEach, h.accepts]
  | cons first before ih => cases values <;> simp [acceptsEach, ih]

/-- A tuple looks at an element in two ways: it counts it if it is required, and has it accept the
    item at its position. -/
theorem tuple (h : Interchangeable t u) (before after : List ValueType) :
    Interchangeable (.tuple (before ++ t :: after)) (.tuple (before ++ u :: after)) where
  optional := rfl
  accepts v := by
    cases v with
    | seq values =>
      have hlength : (before ++ t :: after).length = (before ++ u :: after).length := by simp
      rw [ValueType.accepts, ValueType.accepts, h.requiredCount_eq, hlength, h.acceptsEach_eq]
    | none | bool | int | float | str | function => simp [ValueType.accepts]

/-- Unions with interchangeable members are interchangeable. -/
theorem union (h : Interchangeable t u) (before after : List ValueType) :
    Interchangeable (.union (before ++ t :: after)) (.union (before ++ u :: after)) where
  optional := by simp [isOptional_union, h.optional]
  accepts v := by simp [accepts_union, h.accepts]

/-- Optional forms of interchangeable types are interchangeable. -/
theorem inOptional (h : Interchangeable t u) : Interchangeable (.optional t) (.optional u) where
  optional := rfl
  accepts v := by rw [accepts_optional, accepts_optional, h.accepts]

/-- Interchangeable types with the same range are interchangeable. -/
theorem ranged (h : Interchangeable t u) (low high : Option Float) :
    Interchangeable (.ranged t low high) (.ranged u low high) where
  optional := rfl
  accepts v := by rw [ValueType.accepts, ValueType.accepts, h.accepts]

/-- Types that can stand for each other do so in every context. -/
theorem fill (h : Interchangeable t u) (c : Context) : Interchangeable (c.fill t) (c.fill u) := by
  induction c with
  | hole => exact h
  | sequence item ih => exact ih.sequence
  | tuple before item after ih => exact ih.tuple before after
  | union before member after ih => exact ih.union before after
  | optional inner ih => exact ih.inOptional
  | ranged inner low high ih => exact ih.ranged low high

end Interchangeable

/-- **Contexts.** However the type in a hole is written, the whole type accepts the same values. -/
theorem accepts_fill {t u : ValueType} (h : Restates t u) (c : Context) (v : Value) :
    (c.fill t).accepts v = (c.fill u).accepts v :=
  (h.interchangeable.fill c).accepts v

/-- A row of tuples whose last element may be left out, because one of two members of a union is
    none. -/
theorem accepts_fill_reordered :
    Restates (.union [.str, .noneType]) (.union [.noneType, .str, .noneType])
      ∧ (ValueType.sequence (.tuple [.int, .union [.str, .noneType]])).accepts
          (.seq [.seq [.int 5]]) = true
      ∧ (ValueType.sequence (.tuple [.int, .union [.noneType, .str, .noneType]])).accepts
          (.seq [.seq [.int 5]]) = true := by
  have hsame : Restates (.union [.str, .noneType]) (.union [.noneType, .str, .noneType]) := by
    apply Restates.members
    simp [or_comm]
  have hplain : (ValueType.sequence (.tuple [.int, .union [.str, .noneType]])).accepts
      (.seq [.seq [.int 5]]) = true := rfl
  have hfill := accepts_fill hsame (.sequence (.tuple [.int] .hole [])) (.seq [.seq [.int 5]])
  exact ⟨hsame, hplain, hfill.symm.trans hplain⟩

/-- None alone is accepted by the type of none and by a literal; only the first may be left out. -/
example : (ValueType.tuple [.int, .noneType]).accepts (.seq [.int 5]) = true
    ∧ (ValueType.tuple [.int, .literal [.none]]).accepts (.seq [.int 5]) = false := ⟨rfl, rfl⟩

end Questionnaire.ValueType
