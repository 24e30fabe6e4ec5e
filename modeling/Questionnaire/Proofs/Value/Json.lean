import Questionnaire.Value.Json

namespace Questionnaire

/-!
# Values through JSON

A value goes through JSON unchanged but for two things that JSON cannot tell: which strings are
references to functions, and numbers that are not finite.

* `Value.plain` — a value without these two things.
* `Json.IsPlain` — JSON without objects, and without other numbers than integers of 64 bits with a
  sign and finite ones.
* `Value.ofJson_toJson`, `Value.toJson_ofJson` — both ways around.
* `Value.ofJson_eq_none_iff` — there is a value unless there is an object.
* `Value.json_conversion` — all of this.
-/

/-! ### Specification -/

namespace Value

mutual

/-- A value with strings for functions, and with nothing for numbers that are not finite. -/
def plain : Value → Value
  | .none => .none
  | .bool b => .bool b
  | .int i => .int i
  | .float x => if x.isFinite then .float x else .none
  | .str s => .str s
  | .seq items => .seq (plainItems items)
  | .function name => .str name

/-- The same for the items of a list. -/
def plainItems : List Value → List Value
  | [] => []
  | item :: rest => plain item :: plainItems rest

end

end Value

/-- There is no object in a JSON value, and all its numbers are integers of 64 bits with a sign or
    finite floating point numbers. -/
inductive Json.IsPlain : Json → Prop where
  | null : IsPlain .null
  | bool (b : Bool) : IsPlain (.bool b)
  | int (i : Int64) : IsPlain (.int i)
  | float {x : Float} (h : x.isFinite = true) : IsPlain (.float x)
  | str (s : String) : IsPlain (.str s)
  | array {items : List Json} (h : ∀ item ∈ items, IsPlain item) : IsPlain (.array items)

namespace Value

/-! ### From values to JSON -/

mutual

/-- What JSON can tell of a value comes back. -/
theorem ofJson_toJson : (v : Value) → ofJson? v.toJson = some v.plain
  | .none | .bool _ | .int _ | .str _ | .function _ => rfl
  | .float x => by
    rw [toJson, Json.ofFloat, plain]
    split <;> rfl
  | .seq items => by
    rw [toJson, ofJson?, ofJsonItems_toJsonItems items, plain]
    rfl

/-- Items are read back from their JSON, one by one. -/
theorem ofJsonItems_toJsonItems :
    (items : List Value) → ofJsonItems? (toJsonItems items) = some (plainItems items)
  | [] => rfl
  | item :: rest => by
    rw [toJsonItems, ofJsonItems?, ofJson_toJson item, ofJsonItems_toJsonItems rest, plainItems]

end

/-- Values have no integers that are too large for them. -/
theorem toJson_ne_large (v : Value) (n : Json.Large) : v.toJson ≠ .large n := by
  cases v with
  | float x =>
    rw [toJson, Json.ofFloat]
    split <;> nofun
  | _ => nofun

/-! ### From JSON to values -/

mutual

/-- Plain JSON has a value, and comes back. -/
theorem toJson_ofJson : (json : Json) → json.IsPlain → ∃ v, ofJson? json = some v ∧ v.toJson = json
  | .null, _ => ⟨.none, rfl, rfl⟩
  | .bool b, _ => ⟨.bool b, rfl, rfl⟩
  | .int i, _ => ⟨.int i, rfl, rfl⟩
  | .float x, .float h => ⟨.float x, rfl, if_pos h⟩
  | .str s, _ => ⟨.str s, rfl, rfl⟩
  | .array items, .array h => by
    obtain ⟨values, hvalues, hitems⟩ := toJsonItems_ofJsonItems items h
    exact ⟨.seq values, by rw [ofJson?, hvalues, Option.map_some], by rw [toJson, hitems]⟩

/-- Plain items of JSON are written back, one by one. -/
theorem toJsonItems_ofJsonItems : (items : List Json) → (∀ item ∈ items, item.IsPlain) →
    ∃ values, ofJsonItems? items = some values ∧ toJsonItems values = items
  | [], _ => ⟨[], rfl, rfl⟩
  | item :: rest, h => by
    obtain ⟨hitem, hrest⟩ := List.forall_mem_cons.mp h
    obtain ⟨v, hv, hback⟩ := toJson_ofJson item hitem
    obtain ⟨values, hvalues, hrestBack⟩ := toJsonItems_ofJsonItems rest hrest
    exact ⟨v :: values, by rw [ofJsonItems?, hv, hvalues], by rw [toJsonItems, hback, hrestBack]⟩

end

mutual

/-- There is a value for JSON unless there is an object in it. -/
theorem ofJson_eq_none_iff : (json : Json) → (ofJson? json = Option.none ↔ json.hasObject = true)
  | .null | .bool _ | .int _ | .large _ | .float _ | .str _ | .object _ => by
    simp [ofJson?, Json.hasObject]
  | .array items => by
    rw [ofJson?, Json.hasObject, Option.map_eq_none_iff]
    exact ofJsonItems_eq_none_iff items

/-- Items cannot be read exactly if there is an object in one of them. -/
theorem ofJsonItems_eq_none_iff : (items : List Json) →
    (ofJsonItems? items = Option.none ↔ Json.anyHasObject items = true)
  | [] => by simp [ofJsonItems?, Json.anyHasObject]
  | item :: rest => by
    rw [Json.anyHasObject, Bool.or_eq_true, ← ofJson_eq_none_iff item,
      ← ofJsonItems_eq_none_iff rest, ofJsonItems?]
    cases ofJson? item <;> cases ofJsonItems? rest <;> simp

end

/-! ### Both ways around -/

/-- **Conversion.** From a value to JSON and back, only references to functions and numbers that are
    not finite are lost.  From plain JSON to a value and back nothing is lost.  There is a value for
    all JSON but that with an object at some depth. -/
theorem json_conversion :
    (∀ v : Value, ofJson? v.toJson = some v.plain)
      ∧ (∀ json : Json, json.IsPlain → ∃ v, ofJson? json = some v ∧ v.toJson = json)
      ∧ ∀ json : Json, ofJson? json = Option.none ↔ json.hasObject = true :=
  ⟨ofJson_toJson, toJson_ofJson, ofJson_eq_none_iff⟩

/-- An array inside an array, with a number of each kind. -/
theorem json_conversion_nested :
    ∃ json, json = Json.array [.int (-3), .array [.float 0.5, .str "hi"], .null]
      ∧ json.IsPlain ∧ ∃ v, ofJson? json = some v ∧ v.toJson = json := by
  have hplain : (Json.array [.int (-3), .array [.float 0.5, .str "hi"], .null]).IsPlain := by
    refine .array ?_
    simp only [List.forall_mem_cons, List.not_mem_nil, false_implies, implies_true, and_true]
    refine ⟨.int _, .array ?_, .null⟩
    simp only [List.forall_mem_cons, List.not_mem_nil, false_implies, implies_true, and_true]
    exact ⟨.float (by decide), .str _⟩
  exact ⟨_, rfl, hplain, json_conversion.2.1 _ hplain⟩

end Value

end Questionnaire
