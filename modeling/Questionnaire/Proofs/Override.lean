import Questionnaire.CommandLine.Run
import Questionnaire.Proofs.Except
import Questionnaire.Proofs.Keyed

namespace Questionnaire

/-!
# Values given beforehand

Overrides are set one after the other, those of the configuration first, then the assignments.  So
of several for one name the last one counts.

* `Arguments.foldlM_insert_ok` — values that are set one after the other, if none of them fails.
* `Override.Admits` — a target has a parameter of a name and admits a value for it.
* `Plan.Honors` — arguments that agree with the assignments and with the configuration.
* `Plan.overrides_admitted`, `Plan.overrides_honor` — what comes of a configuration and assignments.
-/

/-! ### Setting values one after the other -/

namespace Arguments

/-- Arguments contain the names of their entries. -/
theorem contains_iff {a : Arguments} {name : String} :
    a.contains name = true ↔ name ∈ Keyed.keys a.entries :=
  Keyed.isSome_lookup_iff

/-- Of merged arguments the later ones win, and among these the last one. -/
theorem get?_merge (a other : Arguments) (name : String) :
    (a.merge other).get? name = (other.entries.reverse.lookup name).or (a.get? name) :=
  Keyed.lookup_putAll name other.entries a.entries

/-- If values can be set one after the other, none of them fails, and setting them is the same as
    merging them. -/
theorem foldlM_insert_ok {β ε : Type} {f : β → Except ε (String × Value)} {xs : List β}
    {start a : Arguments}
    (h : xs.foldlM (fun a x => (fun (name, v) => a.insert name v) <$> f x) start = .ok a) :
    (∀ x ∈ xs, ∃ pair, f x = .ok pair)
      ∧ a = start.merge ⟨xs.filterMap fun x => (f x).toOption⟩ := by
  induction xs generalizing start with
  | nil =>
    obtain rfl : start = a := Except.ok.inj h
    exact ⟨by simp, rfl⟩
  | cons x xs ih =>
    rw [List.foldlM_cons] at h
    obtain ⟨next, hnext, h⟩ := Except.bind_eq_ok.mp h
    obtain ⟨pair, hx, rfl⟩ := Except.map_eq_ok.mp hnext
    obtain ⟨hall, hmerge⟩ := ih h
    have hpairs : (x :: xs).filterMap (fun x => (f x).toOption)
        = pair :: xs.filterMap (fun x => (f x).toOption) := by
      simp [hx, Except.toOption]
    constructor
    · intro y hy
      rcases List.mem_cons.mp hy with rfl | hy
      · exact ⟨pair, hx⟩
      · exact hall y hy
    · rw [hmerge, hpairs]
      rfl

end Arguments

/-! ### Admitted values -/

namespace Override

variable {t : Target} {name : String} {v : Value}

/-- The target has a parameter of the name, and the parameter admits the value. -/
def Admits (t : Target) (name : String) (v : Value) : Prop :=
  ∃ p ∈ t.signature.params, p.name = name ∧ p.type.accepts v = true

/-- A value that is checked stays as it is, and is admitted. -/
theorem check_ok {value : Value} (h : check t name value = .ok v) :
    v = value ∧ Admits t name v := by
  unfold check at h
  split at h
  · cases h
  · rename_i p hparam
    split at h
    · rename_i haccepts
      obtain rfl := Except.ok.inj h
      have hmem : p ∈ t.signature.params := List.mem_of_find?_eq_some hparam
      have hname := List.find?_some (p := fun p : Parameter => p.name == name) hparam
      exact ⟨rfl, p, hmem, by simpa using hname, haccepts⟩
    · cases h

/-- An override in a configuration has the value of its JSON form, up to references. -/
theorem ofJson_ok {json : Json} (h : ofJson t name json = .ok v) :
    (∃ value, Value.ofJson? json = some value ∧ v = resolve t name value) ∧ Admits t name v := by
  unfold ofJson at h
  split at h
  · cases h
  · rename_i value hvalue
    obtain ⟨hv, hadmits⟩ := check_ok h
    exact ⟨⟨value, hvalue, hv⟩, hadmits⟩

/-- The value of an assignment that can be parsed is admitted. -/
theorem parse_ok {assignment : String} (h : parse t assignment = .ok (name, v)) :
    Admits t name v := by
  unfold parse at h
  split at h
  · cases h
  · rename_i left right _
    dsimp only at h
    split at h
    · cases h
    · obtain ⟨checked, hcheck, hpair⟩ := Except.map_eq_ok.mp h
      obtain ⟨rfl, rfl⟩ := Prod.mk.inj hpair
      exact (check_ok hcheck).2

/-! ### Several of them -/

/-- The override in a field of a configuration, with its name. -/
def ofField (t : Target) (field : String × Json) : Except Fault (String × Value) :=
  (fun v => (field.1, v)) <$> ofJson t field.1 field.2

/-- A configured field gives a value under its own name. -/
theorem ofField_ok {field : String × Json} (h : ofField t field = .ok (name, v)) :
    field.1 = name ∧ ofJson t name field.2 = .ok v := by
  obtain ⟨value, hjson, hpair⟩ := Except.map_eq_ok.mp h
  obtain ⟨rfl, rfl⟩ := Prod.mk.inj hpair
  exact ⟨rfl, hjson⟩

/-- The overrides in the fields of a configuration. -/
theorem ofFields_ok {fields : List (String × Json)} {a : Arguments}
    (h : ofFields t fields = .ok a) :
    (∀ field ∈ fields, ∃ pair, ofField t field = .ok pair)
      ∧ a = Arguments.empty.merge ⟨fields.filterMap fun field => (ofField t field).toOption⟩ := by
  apply Arguments.foldlM_insert_ok
  rw [← h, ofFields]
  congr 1
  -- The two folds do the same step, once with the name inside and once outside.
  funext a ⟨name, json⟩
  unfold ofField
  dsimp only
  cases ofJson t name json <;> rfl

/-- Overrides that a target admits, at most one for each name. -/
structure AreAdmitted (t : Target) (a : Arguments) : Prop where
  distinct : (Keyed.keys a.entries).Nodup
  admits : ∀ name v, a.get? name = some v → Admits t name v

/-- No arguments at all are admitted. -/
theorem areAdmitted_empty (t : Target) : AreAdmitted t Arguments.empty where
  distinct := List.nodup_nil
  admits := by
    intro name v h
    cases h

/-- Admitted arguments may be merged with values that are. -/
theorem AreAdmitted.merge {a : Arguments} (h : AreAdmitted t a) {pairs : List (String × Value)}
    (hpairs : ∀ name v, (name, v) ∈ pairs → Admits t name v) :
    AreAdmitted t (a.merge ⟨pairs⟩) where
  distinct := Keyed.nodup_putAll pairs h.distinct
  admits := by
    intro name v hv
    rw [Arguments.get?_merge] at hv
    -- A value comes from the pairs, or it was there before.
    rcases Option.or_eq_some_iff.mp hv with hnew | ⟨-, hold⟩
    · have hmem := Keyed.mem_of_lookup hnew
      exact hpairs name v (List.mem_reverse.mp hmem)
    · exact h.admits name v hold

end Override

/-! ### A configuration and assignments -/

/-- The fields of the overrides that are configured for a target. -/
def Configuration.fieldsFor (c : Configuration) (t : Target) : List (String × Json) :=
  ((c.targets.lookup t.name).bind (·.overrides)).getD []

namespace Plan

variable {c : Configuration} {t : Target} {assignments : List String} {a : Arguments}

/-- The overrides are those of the configuration, merged with those of the assignments. -/
theorem overrides_ok (h : overrides? c t assignments = .ok a) :
    (∀ field ∈ c.fieldsFor t, ∃ pair, Override.ofField t field = .ok pair)
      ∧ a = (Arguments.empty.merge
          ⟨(c.fieldsFor t).filterMap fun field => (Override.ofField t field).toOption⟩).merge
        ⟨assignments.filterMap fun x => (Override.parse t x).toOption⟩ := by
  -- Settings without overrides are settings with none of them.
  obtain ⟨configured, hconfigured, hassign⟩ : ∃ configured,
      Override.ofFields t (c.fieldsFor t) = .ok configured
      ∧ assignments.foldlM
        (fun a x => (fun (name, v) => a.insert name v) <$> Override.parse t x) configured
        = .ok a := by
    have hnone : Override.ofFields t [] = .ok Arguments.empty := rfl
    unfold overrides? at h
    unfold Configuration.fieldsFor
    cases hsettings : c.targets.lookup t.name with
    | none =>
      rw [hsettings] at h
      exact ⟨Arguments.empty, hnone, h⟩
    | some settings =>
      rw [hsettings] at h
      obtain ⟨configured, hconfigured, hassign⟩ := Except.bind_eq_ok.mp h
      refine ⟨configured, ?_, hassign⟩
      unfold TargetSettings.arguments at hconfigured
      cases hfields : settings.overrides with
      | none =>
        rw [hfields] at hconfigured
        simpa [hfields] using hnone.trans hconfigured
      | some fields =>
        rw [hfields] at hconfigured
        simpa [hfields] using hconfigured
  obtain ⟨hall, rfl⟩ := Override.ofFields_ok hconfigured
  exact ⟨hall, (Arguments.foldlM_insert_ok hassign).2⟩

/-- A target admits all overrides that it gets. -/
theorem overrides_admitted (h : overrides? c t assignments = .ok a) :
    Override.AreAdmitted t a := by
  obtain ⟨-, rfl⟩ := overrides_ok h
  apply Override.AreAdmitted.merge
  · apply (Override.areAdmitted_empty t).merge
    intro name v hmem
    obtain ⟨field, -, hfield⟩ := List.mem_filterMap.mp hmem
    obtain ⟨-, hjson⟩ := Override.ofField_ok (Except.toOption_eq_some.mp hfield)
    exact (Override.ofJson_ok hjson).2
  · intro name v hmem
    obtain ⟨x, -, hx⟩ := List.mem_filterMap.mp hmem
    exact Override.parse_ok (Except.toOption_eq_some.mp hx)

/-- Arguments that agree with assignments and, where there is none, with a configuration. -/
structure Honors (a : Arguments) (c : Configuration) (t : Target) (assignments : List String) :
    Prop where
  /-- A parameter has the value of the last assignment to it. -/
  assigned : ∀ front x back name v, assignments = front ++ x :: back →
    Override.parse t x = .ok (name, v) →
    (∀ later ∈ back, ∀ w, Override.parse t later ≠ .ok (name, w)) → a.get? name = some v
  /-- A parameter without assignment has the value that is configured for it last. -/
  configured : ∀ front name json back, c.fieldsFor t = front ++ (name, json) :: back →
    name ∉ Keyed.keys back → (∀ x ∈ assignments, ∀ w, Override.parse t x ≠ .ok (name, w)) →
    ∃ v, Value.ofJson? json = some v ∧ a.get? name = some (Override.resolve t name v)

/-- A name is not assigned if no assignment gives it a value. -/
theorem not_mem_keys_assigned {name : String}
    (h : ∀ x ∈ assignments, ∀ w, Override.parse t x ≠ .ok (name, w)) :
    name ∉ Keyed.keys (assignments.filterMap fun x => (Override.parse t x).toOption) := by
  intro hkey
  obtain ⟨⟨other, w⟩, hmem, rfl⟩ := List.mem_map.mp hkey
  obtain ⟨x, hx, hparse⟩ := List.mem_filterMap.mp hmem
  exact h x hx w (Except.toOption_eq_some.mp hparse)

/-- A name is not configured if no field has it. -/
theorem not_mem_keys_configured {fields : List (String × Json)} {name : String}
    (h : name ∉ Keyed.keys fields) :
    name ∉ Keyed.keys (fields.filterMap fun field => (Override.ofField t field).toOption) := by
  intro hkey
  obtain ⟨⟨other, w⟩, hmem, rfl⟩ := List.mem_map.mp hkey
  obtain ⟨field, hfield, hof⟩ := List.mem_filterMap.mp hmem
  obtain ⟨hname, -⟩ := Override.ofField_ok (Except.toOption_eq_some.mp hof)
  exact h (List.mem_map.mpr ⟨field, hfield, hname⟩)

/-- The overrides agree with the assignments and the configuration they are made from. -/
theorem overrides_honor (h : overrides? c t assignments = .ok a) : Honors a c t assignments := by
  obtain ⟨hall, rfl⟩ := overrides_ok h
  constructor
  · intro front x back name v hassignments hparse hlast
    -- What comes later is merged later, so the list is cut at the assignment that counts.
    have hpairs : assignments.filterMap (fun x => (Override.parse t x).toOption)
        = front.filterMap (fun x => (Override.parse t x).toOption)
          ++ (name, v) :: back.filterMap (fun x => (Override.parse t x).toOption) := by
      rw [hassignments]
      simp [hparse, Except.toOption]
    rw [Arguments.get?_merge, hpairs,
      Keyed.lookup_reverse_of_last (not_mem_keys_assigned hlast), Option.some_or]
  · intro front name json back hfields hlast hnone
    -- There is a value, since a field without one would have made the whole fail.
    obtain ⟨⟨other, w⟩, hpair⟩ := hall (name, json) (by simp [hfields])
    obtain ⟨rfl, hjson⟩ := Override.ofField_ok hpair
    obtain ⟨⟨v, hv, rfl⟩, -⟩ := Override.ofJson_ok hjson
    refine ⟨v, hv, ?_⟩
    have hpairs : (c.fieldsFor t).filterMap (fun field => (Override.ofField t field).toOption)
        = front.filterMap (fun field => (Override.ofField t field).toOption)
          ++ (name, Override.resolve t name v)
            :: back.filterMap (fun field => (Override.ofField t field).toOption) := by
      rw [hfields]
      simp [hpair, Except.toOption]
    -- No assignment is in the way, so the value comes from the configuration.
    have hassigned : name ∉ Keyed.keys
        (assignments.filterMap fun x => (Override.parse t x).toOption).reverse := by
      simpa [Keyed.keys] using not_mem_keys_assigned hnone
    rw [Arguments.get?_merge, Keyed.lookup_eq_none_of_not_mem hassigned, Option.none_or,
      Arguments.get?_merge, hpairs,
      Keyed.lookup_reverse_of_last (not_mem_keys_configured hlast), Option.some_or]

end Plan

end Questionnaire
