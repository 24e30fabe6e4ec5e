import Questionnaire.Proofs.Override
import Questionnaire.Proofs.Registry
import Questionnaire.Proofs.Session.Calls

namespace Questionnaire

/-!
# Safe calls

Values reach a target from a configuration, from assignments, from saved files and from answers.
On all of these ways they are checked, so that targets are called with arguments they declare.

* `Call.IsSafe` — the arguments of a call are those that the target declares.
* `Call.isSafe_of_collect` — a call is safe after every run of questions.
* `Plan.calls_safe` — all calls are safe, and agree with what was given beforehand.
* `Plan.make_calls_due` — in particular those of a plan.
-/

/-- The arguments of a call are those that the target declares, one for each parameter and each of
    the declared type.  What has been collected is not replaced. -/
structure Call.IsSafe (call : Call) : Prop where
  names : (Keyed.keys call.arguments.entries).Perm (call.target.signature.params.map (·.name))
  accepted : ∀ p ∈ call.target.signature.params,
    ∃ v, call.arguments.get? p.name = some v ∧ p.type.accepts v = true
  kept : ∀ name v, call.collected.get? name = some v → call.arguments.get? name = some v

/-! ### One call -/

/-- An override that is admitted has the name of a parameter. -/
theorem Override.AreAdmitted.mem_names {t : Target} {a : Arguments} (h : AreAdmitted t a)
    {name : String} (hname : a.contains name = true) :
    name ∈ t.signature.params.map (·.name) := by
  obtain ⟨v, hv⟩ := Option.isSome_iff_exists.mp hname
  obtain ⟨p, hp, rfl, -⟩ := h.admits name v hv
  exact List.mem_map_of_mem hp

namespace Collection.IsFaithful

variable {s : Setup} {signature : Signature} {overrides : Arguments} {c : Collection}

/-- Arguments are given for the parameters that are not overridden. -/
theorem mem_keys (h : c.IsFaithful s signature overrides) {name : String} :
    name ∈ Keyed.keys c.arguments.entries
      ↔ name ∈ signature.params.map (·.name) ∧ overrides.contains name = false := by
  rw [h.keys, List.mem_filter, Bool.not_eq_true']

/-- None of them is given twice. -/
theorem nodup_keys (h : c.IsFaithful s signature overrides) (hwf : signature.WellFormed) :
    (Keyed.keys c.arguments.entries).Nodup := by
  rw [h.keys]
  exact hwf.distinct.filter _

/-- What has been collected has other names than the overrides, so all of both is passed. -/
theorem merge_entries (h : c.IsFaithful s signature overrides) (hwf : signature.WellFormed)
    (hoverrides : (Keyed.keys overrides.entries).Nodup) :
    (c.arguments.merge overrides).entries = c.arguments.entries ++ overrides.entries := by
  apply Keyed.putAll_of_nodup
  rw [Keyed.keys, List.map_append]
  refine List.nodup_append.mpr ⟨h.nodup_keys hwf, hoverrides, ?_⟩
  intro name hname other hother
  rintro rfl
  have hcontains := Arguments.contains_iff.mpr hother
  rw [(h.mem_keys.mp hname).2] at hcontains
  cases hcontains

/-- Merged arguments are those that are given, and for all other names those that are overridden. -/
theorem get?_merge (h : c.IsFaithful s signature overrides) (hwf : signature.WellFormed)
    (hoverrides : (Keyed.keys overrides.entries).Nodup) (name : String) :
    (c.arguments.merge overrides).get? name
      = (c.arguments.get? name).or (overrides.get? name) := by
  rw [Arguments.get?, h.merge_entries hwf hoverrides, List.lookup_append]
  rfl

end Collection.IsFaithful

namespace Call

variable {s : Setup} {t : Target} {overrides : Arguments} {c : Collection}

/-- Together they are for the parameters of the target, each once. -/
theorem names_of_faithful (h : c.IsFaithful s t.signature overrides)
    (hwf : t.signature.WellFormed) (hoverrides : Override.AreAdmitted t overrides) :
    (Keyed.keys (c.arguments.merge overrides).entries).Perm
      (t.signature.params.map (·.name)) := by
  -- Neither list has a name twice, so it is enough that they have the same names.
  have hnodup : (Keyed.keys (c.arguments.merge overrides).entries).Nodup :=
    Keyed.nodup_putAll _ (h.nodup_keys hwf)
  rw [List.perm_ext_iff_of_nodup hnodup hwf.distinct]
  intro name
  rw [h.merge_entries hwf hoverrides.distinct, Keyed.keys, List.map_append, List.mem_append]
  constructor
  · intro hname
    rcases hname with hname | hname
    · exact (h.mem_keys.mp hname).1
    · exact hoverrides.mem_names (Arguments.contains_iff.mpr hname)
  · intro hname
    cases hcontains : overrides.contains name with
    | true => exact Or.inr (Arguments.contains_iff.mp hcontains)
    | false => exact Or.inl (h.mem_keys.mpr ⟨hname, hcontains⟩)

/-- Each parameter has a value of its type among them. -/
theorem accepted_of_faithful (h : c.IsFaithful s t.signature overrides)
    (hwf : t.signature.WellFormed) (hoverrides : Override.AreAdmitted t overrides)
    {p : Parameter} (hp : p ∈ t.signature.params) :
    ∃ v, (c.arguments.merge overrides).get? p.name = some v ∧ p.type.accepts v = true := by
  rw [h.get?_merge hwf hoverrides.distinct]
  cases hcontains : overrides.contains p.name with
  | true =>
    -- Nothing has been collected for the parameter, and its override has been checked.
    have hnone : c.arguments.get? p.name = none := by
      apply Keyed.lookup_eq_none_of_not_mem
      rw [h.mem_keys, hcontains]
      simp
    obtain ⟨v, hv⟩ := Option.isSome_iff_exists.mp hcontains
    obtain ⟨q, hq, hname, haccepts⟩ := hoverrides.admits p.name v hv
    obtain rfl := Setup.eq_of_name_eq hwf.distinct hq hp hname
    exact ⟨v, by rw [hnone, hv, Option.none_or], haccepts⟩
  | false =>
    obtain ⟨v, hv, haccepts⟩ := h.accepted p hp hcontains
    exact ⟨v, by rw [hv, Option.some_or], haccepts⟩

/-- **Safety of a call.** After every run of questions, the values that have been collected and the
    overrides are together what the target declares. -/
theorem isSafe_of_collect (hwf : t.signature.WellFormed)
    (hoverrides : Override.AreAdmitted t overrides) {σ τ : Session}
    (hrun : (s.collect t.signature overrides).run σ = .ok c τ) :
    IsSafe ⟨t, c.arguments, overrides⟩ := by
  obtain ⟨gs, hkeys, hfits, hholds⟩ := Setup.collect_holds hwf hrun
  have h : c.IsFaithful s t.signature overrides := hholds.isFaithful hwf hkeys hfits
  constructor
  case names => exact names_of_faithful h hwf hoverrides
  case accepted =>
    intro p hp
    exact accepted_of_faithful h hwf hoverrides hp
  case kept =>
    intro name v hv
    have hcollected : c.arguments.get? name = some v := hv
    show (c.arguments.merge overrides).get? name = some v
    rw [h.get?_merge hwf hoverrides.distinct, hcollected, Option.some_or]

end Call

/-! ### All calls -/

/-- Overrides count for a call whatever has been collected. -/
theorem Plan.Honors.merge {a : Arguments} {c : Configuration} {t : Target}
    {assignments : List String} (h : Plan.Honors a c t assignments)
    (hdistinct : (Keyed.keys a.entries).Nodup) (collected : Arguments) :
    Plan.Honors (collected.merge a) c t assignments := by
  have hmerge (name : String) (v : Value) (hv : a.get? name = some v) :
      (collected.merge a).get? name = some v := by
    -- The overrides are merged last, and each of them is the only one of its name.
    have hreverse : (Keyed.keys a.entries.reverse).Nodup := by
      rw [Keyed.keys, List.map_reverse, List.nodup_reverse]
      exact hdistinct
    have hmem : (name, v) ∈ a.entries.reverse := by
      rw [List.mem_reverse]
      exact Keyed.mem_of_lookup hv
    rw [Arguments.get?_merge, Keyed.lookup_of_mem hreverse hmem, Option.some_or]
  constructor
  · intro front x back name v hassignments hparse hlast
    exact hmerge name v (h.assigned front x back name v hassignments hparse hlast)
  · intro front name json back hfields hlast hnone
    obtain ⟨v, hjson, hv⟩ := h.configured front name json back hfields hlast hnone
    exact ⟨v, hjson, hmerge name _ hv⟩

/-- A call that is safe, of a target or of the question whether it runs again.  If it is a call of
    the target, it agrees with what was given beforehand. -/
structure Call.IsDue (call : Call) (c : Configuration) (t : Target) (assignments : List String) :
    Prop where
  target : call.target = t ∨ call.target = Rerun.target
  safe : call.IsSafe
  honors : call.target = t → Plan.Honors call.arguments c t assignments

/-- All calls in a session are due, if the overrides come from a configuration and assignments. -/
theorem Setup.calls_due {t : Target} (hwf : t.signature.WellFormed) {c : Configuration}
    {assignments : List String} {overrides : Arguments}
    (hoverrides : Plan.overrides? c t assignments = .ok overrides) (s : Setup) (σ : Session) :
    ∀ call ∈ s.calls t overrides σ, call.IsDue c t assignments := by
  have hadmitted := Plan.overrides_admitted hoverrides
  have hhonors := Plan.overrides_honor hoverrides
  apply Setup.calls_all
  · intro σ collection τ hcollect
    refine ⟨Or.inl rfl, Call.isSafe_of_collect hwf hadmitted hcollect, fun _ => ?_⟩
    exact hhonors.merge hadmitted.distinct collection.arguments
  · intro hother σ collection τ hcollect
    refine ⟨Or.inr rfl, Call.isSafe_of_collect Rerun.signature_wellFormed
      (Override.areAdmitted_empty _) hcollect, fun hsame => ?_⟩
    -- The question is put by another target.
    exact absurd (congrArg Target.name hsame).symm hother

/-- A configuration that is planned with has passed the check. -/
theorem Plan.configuration_ok {o : Options} {registry : Registry} {files : FileTree}
    {c : Configuration} (h : Plan.configuration o registry files = .ok c) :
    c.check registry = .ok () := by
  obtain ⟨found, -, h⟩ := Except.bind_eq_ok.mp h
  obtain ⟨⟨⟩, hcheck, h⟩ := Except.bind_eq_ok.mp h
  obtain rfl := Except.ok.inj h
  exact Except.mapError_eq_ok.mp hcheck

/-- A plan has a target of the registry, and the overrides that the configuration and the
    assignments give to it. -/
theorem Plan.make_ok {o : Options} {registry : Registry} {files : FileTree} {input : ByteArray}
    {plan : Plan} (h : Plan.make o registry files input = .ok plan) :
    ∃ c, Plan.configuration o registry files = .ok c
      ∧ (∃ name, registry.get? name = some plan.target)
      ∧ Plan.overrides? c plan.target o.assignments = .ok plan.overrides := by
  unfold make at h
  obtain ⟨c, hc, h⟩ := Except.bind_eq_ok.mp h
  dsimp only at h
  split at h
  · rename_i t ht
    rw [pure_bind] at h
    obtain ⟨overrides, hoverrides, h⟩ := Except.bind_eq_ok.mp h
    have hplan : plan.target = t ∧ plan.overrides = overrides := by
      -- Where answers come from and how long reports stay visible does not matter.
      split at h
      all_goals
        obtain ⟨source, -, h⟩ := Except.bind_eq_ok.mp h
        split at h
        · rw [pure_bind] at h
          obtain rfl := Except.ok.inj h
          exact ⟨rfl, rfl⟩
        · cases h
    obtain ⟨rfl, rfl⟩ := hplan
    exact ⟨c, hc, ⟨_, ht⟩, Except.mapError_eq_ok.mp hoverrides⟩
  · cases h

/-- **Safety of a plan.** All calls of a run with given options are due, by a configuration that has
    been checked. -/
theorem Plan.make_calls_due {o : Options} {chance : Nat → Lindenmayer.Rgb} {files : FileTree}
    {input : ByteArray} {plan : Plan}
    (h : Plan.make o (Registry.builtin chance) files input = .ok plan) (σ : Session) :
    ∃ c, Plan.configuration o (Registry.builtin chance) files = .ok c
      ∧ c.check (Registry.builtin chance) = .ok ()
      ∧ ∀ call ∈ plan.setup.calls plan.target plan.overrides σ,
        call.IsDue c plan.target o.assignments := by
  obtain ⟨c, hc, ⟨name, htarget⟩, hoverrides⟩ := Plan.make_ok h
  exact ⟨c, hc, Plan.configuration_ok hc,
    plan.setup.calls_due (Registry.builtin_wellFormed htarget) hoverrides σ⟩

end Questionnaire
