import Mathlib.Data.List.Basic
import Questionnaire.ValueType.Read

namespace Questionnaire.ValueType

/-!
# Tuples and the elements they leave out

Optional elements may be left out at the end of a tuple.  Whether enough items are there is decided
by a count alone: of the items there must be as many as there are required types.

* `IsOmittable` — the types whose elements may be left out.
* `IsInstance` — the values of a tuple as its documentation has them: items at the first positions,
  and only omittable types behind these.
* `OptionalLast` — no required type stands behind an optional one.
* `accepts_tuple` — what the count admits.  These are the instances as long as the optional types
  stand last, and otherwise an optional item may stand in for a required one that is missing.
-/

/-! ### Specification -/

/-- An element of this type may be left out: it is optional, or none, or anything, or a union with
    such a member. -/
inductive IsOmittable : ValueType → Prop where
  | any : IsOmittable .any
  | noneType : IsOmittable .noneType
  | optional (inner : ValueType) : IsOmittable (.optional inner)
  | union {members : List ValueType} {t : ValueType} (hmem : t ∈ members) (ht : IsOmittable t) :
    IsOmittable (.union members)

/-- The items stand at the first positions of a tuple, and the type at each position accepts the
    item there. -/
structure Fills (types : List ValueType) (items : List Value) : Prop where
  length_le : items.length ≤ types.length
  accepted : ∀ i (_ : i < items.length), types[i].accepts items[i] = true

/-- A value of a tuple: its items fill the first positions, and nothing required stands behind. -/
def IsInstance (types : List ValueType) (v : Value) : Prop :=
  ∃ items, v = .seq items ∧ Fills types items ∧ ∀ t ∈ types.drop items.length, IsOmittable t

/-- Behind an omittable type stand only such types. -/
def OptionalLast (types : List ValueType) : Prop :=
  types.Pairwise fun t u => IsOmittable t → IsOmittable u

/-! ### What is counted -/

mutual

/-- What counts as optional may be left out, and nothing else. -/
theorem isOptional_iff : (t : ValueType) → (t.isOptional = true ↔ IsOmittable t)
  | .any => ⟨fun _ => .any, fun _ => rfl⟩
  | .noneType => ⟨fun _ => .noneType, fun _ => rfl⟩
  | .optional inner => ⟨fun _ => .optional inner, fun _ => rfl⟩
  | .union members => by
    rw [isOptional, anyOptional_iff members]
    exact ⟨fun ⟨_, hmem, ht⟩ => .union hmem ht, fun | .union hmem ht => ⟨_, hmem, ht⟩⟩
  | .int | .float | .bool | .str | .function | .sequence _ | .tuple _ | .literal _
  | .ranged _ _ _ => ⟨nofun, nofun⟩

/-- One of several types may be omitted if there is such a type among them. -/
theorem anyOptional_iff : (types : List ValueType) →
    (anyOptional types = true ↔ ∃ t ∈ types, IsOmittable t)
  | [] => by simp [anyOptional]
  | t :: rest => by
    simp [anyOptional, isOptional_iff t, anyOptional_iff rest]

end

/-- Items are accepted if each is accepted by the type at its index, as far as both go. -/
theorem acceptsEach_eq_true {types : List ValueType} {items : List Value} :
    acceptsEach types items = true
      ↔ ∀ (i : Nat) (t : ValueType) (v : Value),
        types[i]? = some t → items[i]? = some v → t.accepts v = true := by
  induction types generalizing items with
  | nil => simp [acceptsEach]
  | cons t types ih =>
    cases items with
    | nil => simp [acceptsEach]
    | cons v items =>
      rw [acceptsEach, Bool.and_eq_true, ih]
      constructor
      · rintro ⟨hfirst, hrest⟩ (_ | i) u w hu hw
        · simp_all
        · exact hrest i u w (by simpa using hu) (by simpa using hw)
      · intro h
        exact ⟨h 0 t v rfl rfl, fun i u w hu hw =>
          h (i + 1) u w (by simpa using hu) (by simpa using hw)⟩

/-- Items fill types if there are not more of them and all are accepted. -/
theorem fills_iff {types : List ValueType} {items : List Value} :
    Fills types items ↔ items.length ≤ types.length ∧ acceptsEach types items = true := by
  rw [acceptsEach_eq_true]
  constructor
  · rintro ⟨hlength, haccepted⟩
    refine ⟨hlength, fun i t v ht hv => ?_⟩
    obtain ⟨hi, rfl⟩ := List.getElem?_eq_some_iff.mp hv
    obtain ⟨_, rfl⟩ := List.getElem?_eq_some_iff.mp ht
    exact haccepted i hi
  · rintro ⟨hlength, heach⟩
    exact ⟨hlength, fun i hi => heach i _ _ (List.getElem?_eq_getElem (by omega))
      (List.getElem?_eq_getElem hi)⟩

/-- Enough items are there for the required types, wherever these stand, if and only if the required
    types behind the items are no more than the optional ones that the items fill. -/
theorem requiredCount_le_iff {types : List ValueType} {n : Nat} (hn : n ≤ types.length) :
    requiredCount types ≤ n
      ↔ requiredCount (types.drop n) ≤ (types.take n).countP isOptional := by
  have hsplit : requiredCount types
      = requiredCount (types.take n) + requiredCount (types.drop n) := by
    conv_lhs => rw [← List.take_append_drop n types]
    exact List.countP_append
  have htake : n = (types.take n).countP isOptional + requiredCount (types.take n) := by
    have hlength := List.length_eq_countP_add_countP isOptional (l := types.take n)
    rw [List.length_take_of_le hn] at hlength
    simpa [requiredCount] using hlength
  omega

/-- What is accepted: as many required types may be missing as optional ones are filled. -/
theorem accepts_tuple_iff (types : List ValueType) (v : Value) :
    (ValueType.tuple types).accepts v = true
      ↔ ∃ items, v = .seq items ∧ Fills types items
        ∧ requiredCount (types.drop items.length)
          ≤ (types.take items.length).countP isOptional := by
  cases v with
  | seq items =>
    have haccepts : (ValueType.tuple types).accepts (.seq items) = true
        ↔ requiredCount types ≤ items.length ∧ Fills types items := by
      rw [fills_iff]
      simp [accepts, and_assoc]
    rw [haccepts]
    constructor
    · rintro ⟨hcount, hfills⟩
      exact ⟨items, rfl, hfills, (requiredCount_le_iff hfills.length_le).mp hcount⟩
    · rintro ⟨_, ⟨⟩, hfills, hcount⟩
      exact ⟨(requiredCount_le_iff hfills.length_le).mpr hcount, hfills⟩
  | none | bool | int | float | str | function => simp [accepts]

/-! ### Where the count is right -/

/-- Nothing is required if all types may be omitted. -/
theorem requiredCount_eq_zero {types : List ValueType} :
    requiredCount types = 0 ↔ ∀ t ∈ types, IsOmittable t := by
  simp [requiredCount, isOptional_iff]

/-- An item in front of a required type is no optional one, if these stand last. -/
theorem OptionalLast.missing {types : List ValueType} (h : OptionalLast types) {n : Nat}
    (hcount : requiredCount (types.drop n) ≤ (types.take n).countP isOptional) :
    ∀ t ∈ types.drop n, IsOmittable t := by
  intro t ht
  by_contra hrequired
  have hbefore : ∀ u ∈ types.take n, ¬ IsOmittable u := by
    intro u hu homittable
    rw [OptionalLast, ← List.take_append_drop n types, List.pairwise_append] at h
    exact hrequired (h.2.2 u hu t ht homittable)
  have hnone : (types.take n).countP isOptional = 0 := by
    rw [List.countP_eq_zero]
    intro u hu
    rw [isOptional_iff]
    exact hbefore u hu
  rw [hnone, Nat.le_zero, requiredCount_eq_zero] at hcount
  exact hrequired (hcount t ht)

/-- **Tuples.** Every instance of a tuple is accepted, and only instances are when its optional
    types stand last.  Whatever else is accepted misses a required element, for which at least one
    item of an optional type makes up in the count. -/
theorem accepts_tuple (types : List ValueType) (v : Value) :
    (IsInstance types v → (ValueType.tuple types).accepts v = true)
      ∧ (OptionalLast types → (ValueType.tuple types).accepts v = true → IsInstance types v)
      ∧ ((ValueType.tuple types).accepts v = true ↔ ∃ items, v = .seq items ∧ Fills types items
        ∧ requiredCount (types.drop items.length)
          ≤ (types.take items.length).countP isOptional) := by
  refine ⟨?_, fun hlast haccepts => ?_, accepts_tuple_iff types v⟩
  · rintro ⟨items, rfl, hfills, hmissing⟩
    refine (accepts_tuple_iff types _).mpr ⟨items, rfl, hfills, ?_⟩
    rw [requiredCount_eq_zero.mpr hmissing]
    exact Nat.zero_le _
  · obtain ⟨items, rfl, hfills, hcount⟩ := (accepts_tuple_iff types v).mp haccepts
    exact ⟨items, rfl, hfills, hlast.missing hcount⟩

/-- A tuple without its optional last element. -/
theorem accepts_tuple_trailing :
    OptionalLast [.int, .optional .str] ∧ IsInstance [.int, .optional .str] (.seq [.int 5])
      ∧ (ValueType.tuple [.int, .optional .str]).accepts (.seq [.int 5]) = true
      ∧ (ValueType.tuple [.int, .optional .str]).accepts (.seq []) = false := by
  have hlast : OptionalLast [.int, .optional .str] := by
    refine List.pairwise_pair.mpr fun hint => ?_
    cases hint
  have hinstance : IsInstance [.int, .optional .str] (.seq [.int 5]) :=
    (accepts_tuple _ _).2.1 hlast rfl
  exact ⟨hlast, hinstance, (accepts_tuple _ _).1 hinstance, rfl⟩

/-- An item of an optional type makes up for the required one that is missing behind it. -/
theorem accepts_tuple_missing :
    (ValueType.tuple [.optional .int, .int]).accepts (.seq [.int 5]) = true
      ∧ ¬ IsInstance [.optional .int, .int] (.seq [.int 5]) := by
  refine ⟨rfl, ?_⟩
  rintro ⟨items, ⟨⟩, -, hmissing⟩
  cases hmissing .int (by simp)

end Questionnaire.ValueType
