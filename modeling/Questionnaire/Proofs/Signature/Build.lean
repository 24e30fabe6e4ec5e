import Questionnaire.Proofs.Signature.Declared

namespace Questionnaire.Signature

/-!
# Built signatures

* `WellFormed` — what can be relied on about the parameters of a signature.
* `build_wellFormed` — every signature that is built has this.
-/

/-- The function has a name, names are distinct, every default has the declared type, and every
    internal parameter has a default. -/
structure WellFormed (signature : Signature) : Prop where
  named : signature.name ≠ ""
  distinct : (signature.params.map (·.name)).Nodup
  accepted : ∀ p ∈ signature.params, ∀ v, p.default = some v → p.type.accepts v = true
  internal : ∀ p ∈ signature.params, p.isInternal = true → ∃ v, p.default = some v

/-- Every parameter of a signature has been declared. -/
theorem IsDeclaredBy.exists_declared {s : Signature} {name : String} {steps : List Step}
    (h : s.IsDeclaredBy name steps) {p : Parameter} (hp : p ∈ s.params) :
    ∃ d ∈ declared steps, Specifies (functionDoc? steps) d p := by
  obtain ⟨i, hi, rfl⟩ := List.getElem_of_mem hp
  have hlength : i < (declared steps).length := h.params.length_eq ▸ hi
  exact ⟨_, List.getElem_mem hlength, h.params.get hlength hi⟩

/-- **Building.** A signature that is built is well formed, and has the name it was given. -/
theorem build_wellFormed {name : String} {steps : List Step} {signature : Signature}
    (h : build name steps = .ok signature) : signature.WellFormed ∧ signature.name = name := by
  obtain ⟨hconsistent, hdeclared⟩ := build_eq_ok.mp h
  -- Being declared pairs each parameter with its draft, and consistency speaks of the drafts.
  refine ⟨⟨hdeclared.name ▸ hconsistent.named, hdeclared.names ▸ hconsistent.distinct, ?_, ?_⟩,
    hdeclared.name⟩
  · intro p hp v hv
    obtain ⟨d, hd, hspecifies⟩ := hdeclared.exists_declared hp
    exact hconsistent.accepted d hd p.type v hspecifies.type (hspecifies.default ▸ hv)
  · intro p hp hinternal
    obtain ⟨d, hd, hspecifies⟩ := hdeclared.exists_declared hp
    rw [hspecifies.default]
    apply hconsistent.internal d hd
    rw [← hspecifies.name]
    simpa [Parameter.isInternal] using hinternal

end Questionnaire.Signature
