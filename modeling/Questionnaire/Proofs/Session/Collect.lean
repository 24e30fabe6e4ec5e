import Questionnaire.Proofs.Keyed
import Questionnaire.Proofs.Session.Given
import Questionnaire.Proofs.Signature.Build
import Questionnaire.Session.Collect

namespace Questionnaire

/-!
# Collections

A run of questions goes through the parameters in their order.  What it gives is determined by one
fitting value for each parameter that is not overridden.

* `Collection.Holds` — a collection that holds given values.
* `Setup.collectFrom_fits`, `Setup.collect_holds` — every run of questions ends with one of these.
* `Setup.collect_faithful` — names, types, answers and defaults of what has been collected.
-/

/-! ### Given values -/

/-- Parameters with a value for each. -/
abbrev Givens := List (Parameter × Given)

namespace Givens

/-- The values by name. -/
def values (gs : Givens) : List (String × Value) := gs.map fun (p, g) => (p.name, g.value)

/-- The answers by name. -/
def tokens (gs : Givens) : List (String × String) :=
  gs.filterMap fun (p, g) => g.token.map fun token => (p.name, token)

/-- The values that are given have the names of their parameters. -/
theorem keys_values (gs : Givens) : Keyed.keys gs.values = (gs.map (·.1)).map (·.name) := by
  simp [Keyed.keys, values, Function.comp_def]

/-- A token is there if a parameter of that name was given one. -/
theorem mem_tokens {gs : Givens} {name token : String} :
    (name, token) ∈ gs.tokens ↔ ∃ p g, (p, g) ∈ gs ∧ p.name = name ∧ g.token = some token := by
  rw [tokens, List.mem_filterMap]
  constructor
  · rintro ⟨⟨p, g⟩, hmem, htoken⟩
    obtain ⟨token', htoken', heq⟩ := Option.map_eq_some_iff.mp htoken
    obtain ⟨rfl, rfl⟩ := Prod.mk.inj heq
    exact ⟨p, g, hmem, rfl, htoken'⟩
  · rintro ⟨p, g, hmem, rfl, htoken⟩
    exact ⟨(p, g), hmem, by simp [htoken]⟩

/-- Some of the parameters have tokens, in their order. -/
theorem keys_tokens_sublist (gs : Givens) :
    -- The induction follows the values given: one without an answer is left out of the answers.
    (Keyed.keys gs.tokens).Sublist ((gs.map (·.1)).map (·.name)) := by
  induction gs with
  | nil => simp [tokens, Keyed.keys]
  | cons pg gs ih =>
    obtain ⟨p, g⟩ := pg
    cases htoken : g.token with
    | none =>
      have hskip : tokens ((p, g) :: gs) = tokens gs := by simp [tokens, htoken]
      rw [hskip]
      exact List.Sublist.cons _ ih
    | some token =>
      have hkeep : tokens ((p, g) :: gs) = (p.name, token) :: tokens gs := by
        simp [tokens, htoken]
      rw [hkeep]
      exact List.Sublist.cons_cons _ ih

end Givens

/-! ### Adding values -/

namespace Collection

/-- The collection with the values of several more parameters. -/
def addAll (c : Collection) (gs : Givens) : Collection :=
  gs.foldl (fun c (p, g) => c.add p.name g) c

/-- A collection that holds given values and their answers, and nothing else. -/
structure Holds (c : Collection) (gs : Givens) : Prop where
  arguments : c.arguments.entries = gs.values
  tokens : c.tokens = gs.tokens

/-- A collection that holds what has been given holds what is added to it. -/
theorem addAll_holds {c : Collection} {gs more : Givens} (h : c.Holds gs)
    (hnodup : (((gs ++ more).map (·.1)).map (·.name)).Nodup) :
    (c.addAll more).Holds (gs ++ more) := by
  induction more generalizing c gs with
  | nil => simpa [addAll] using h
  | cons pg more ih =>
    obtain ⟨p, g⟩ := pg
    have hfresh : p.name ∉ Keyed.keys c.arguments.entries := by
      rw [h.arguments, Givens.keys_values]
      intro hmem
      rw [List.map_append, List.map_append, List.nodup_append] at hnodup
      exact hnodup.2.2 _ hmem p.name (by simp) rfl
    have hadd : (c.add p.name g).Holds (gs ++ [(p, g)]) := by
      constructor
      · show Keyed.put p.name g.value c.arguments.entries = _
        rw [Keyed.put_of_not_mem _ hfresh, h.arguments]
        simp [Givens.values]
      · show c.tokens ++ (g.token.map fun token => (p.name, token)).toList = _
        rw [h.tokens]
        cases htoken : g.token <;> simp [Givens.tokens, htoken]
    -- The names stay distinct when the first value has gone over to those that are held.
    have hrest := ih hadd (by simpa using hnodup)
    rw [List.append_assoc] at hrest
    exact hrest

/-- At the start, it holds nothing. -/
theorem start_holds (restoredFrom : Option String) : (start restoredFrom).Holds [] := ⟨rfl, rfl⟩

/-- Adding values does not change what it is restored from or saved to. -/
theorem addAll_restoredFrom (c : Collection) (gs : Givens) :
    (c.addAll gs).restoredFrom = c.restoredFrom ∧ (c.addAll gs).savedTo = c.savedTo := by
  induction gs generalizing c with
  | nil => exact ⟨rfl, rfl⟩
  | cons pg gs ih => exact ih (c.add pg.1.name pg.2)

end Collection

namespace Setup

variable {s : Setup} {overrides : Arguments}

/-! ### Restored values -/

/-- Restored values fit the parameters of their names. -/
def Restores (s : Setup) (params : List Parameter) (restored : List (String × Given)) : Prop :=
  ∀ p ∈ params, ∀ g, restored.lookup p.name = some g → g.Fits s p

/-- Nothing at all may be restored. -/
theorem restores_nil (params : List Parameter) : s.Restores params [] := by
  intro p _ g hg
  cases hg

/-- Every loaded value is that of a parameter which is neither overridden nor internal. -/
theorem loadAll_mem {saved : Saved} {params : List Parameter} {restored : List (String × Given)}
    (h : s.loadAll overrides saved params = .ok restored) :
    ∀ name g, (name, g) ∈ restored → ∃ p ∈ params, p.name = name ∧ p.isInternal = false
      ∧ overrides.contains p.name = false ∧ s.loadParameter saved p = .ok (some g) := by
  induction params generalizing restored with
  | nil =>
    cases h
    simp
  | cons p params ih =>
    rw [loadAll] at h
    split at h
    · intro name g hmem
      obtain ⟨q, hq, hrest⟩ := ih h name g hmem
      exact ⟨q, List.mem_cons_of_mem p hq, hrest⟩
    · rename_i hasked
      obtain ⟨hoverride, hinternal⟩ : overrides.contains p.name = false ∧ p.isInternal = false := by
        simpa using hasked
      obtain ⟨given, hgiven, h⟩ := Except.bind_eq_ok.mp h
      obtain ⟨more, hmore, h⟩ := Except.bind_eq_ok.mp h
      have htail (name : String) (g : Given) (hmem : (name, g) ∈ more) := ih hmore name g hmem
      intro name g hmem
      -- A parameter without a saved answer and without a default adds nothing.
      cases given with
      | none =>
        obtain rfl : more = restored := Except.ok.inj h
        obtain ⟨q, hq, hrest⟩ := htail name g hmem
        exact ⟨q, List.mem_cons_of_mem p hq, hrest⟩
      | some given =>
        obtain rfl : (p.name, given) :: more = restored := Except.ok.inj h
        rcases List.mem_cons.mp hmem with heq | hmem
        · obtain ⟨rfl, rfl⟩ := Prod.mk.inj heq
          exact ⟨p, List.mem_cons_self, rfl, hinternal, hoverride, hgiven⟩
        · obtain ⟨q, hq, hrest⟩ := htail name g hmem
          exact ⟨q, List.mem_cons_of_mem p hq, hrest⟩

/-- Among parameters with distinct names, the name tells the parameter. -/
theorem eq_of_name_eq {params : List Parameter} (hdistinct : (params.map (·.name)).Nodup)
    {p q : Parameter} (hp : p ∈ params) (hq : q ∈ params) (h : p.name = q.name) : p = q :=
  List.inj_on_of_nodup_map hdistinct hp hq h

/-- What is loaded of a configuration fits the parameters. -/
theorem loadAll_restores {signature : Signature} (hwf : signature.WellFormed) {saved : Saved}
    {restored : List (String × Given)}
    (h : s.loadAll overrides saved signature.params = .ok restored) :
    s.Restores signature.params restored := by
  intro p hp g hg
  obtain ⟨q, hq, hname, hinternal, -, hload⟩ := loadAll_mem h p.name g (Keyed.mem_of_lookup hg)
  -- The value was loaded for a parameter of this name, and names tell parameters apart.
  obtain rfl := eq_of_name_eq hwf.distinct hq hp hname
  exact loadParameter_fits hinternal (hwf.accepted q hq) hload

/-- What is restored after loading a configuration fits the parameters. -/
theorem tryLoad_restores {signature : Signature} (hwf : signature.WellFormed) {name : String}
    {restored : List (String × Given)} {restoredFrom : Option String} {σ τ : Session}
    (h : (s.tryLoad signature overrides name).run σ = .ok (restored, restoredFrom) τ) :
    s.Restores signature.params restored := by
  simp only [tryLoad, Dialogue.run_bind_eq_ok, Dialogue.run_files_eq_ok] at h
  obtain ⟨files, ρ, -, h⟩ := h
  split at h
  · rename_i given hload
    obtain ⟨hgiven, -⟩ := Dialogue.run_pure_eq_ok.mp h
    obtain ⟨rfl, -⟩ := Prod.mk.inj hgiven
    obtain ⟨saved, -, hall⟩ := Except.bind_eq_ok.mp hload
    -- A fault that ends the program cannot have given an outcome; any other leaves nothing
    -- restored.
    exact loadAll_restores hwf hall
  · rename_i fault hload
    by_cases hcrash : fault.isCrash = true
    · simp [hcrash] at h
    · simp only [hcrash, Bool.false_eq_true, if_false, Dialogue.run_bind_eq_ok,
        Dialogue.run_pure_eq_ok, Prod.mk.injEq] at h
      obtain ⟨-, -, -, ⟨rfl, -⟩, -⟩ := h
      exact restores_nil _

/-- Whatever the user chooses to restore, the restored values fit. -/
theorem restore_restores {signature : Signature} (hwf : signature.WellFormed)
    {restored : List (String × Given)} {restoredFrom : Option String} {σ τ : Session}
    (h : (s.restore signature overrides).run σ = .ok (restored, restoredFrom) τ) :
    s.Restores signature.params restored := by
  simp only [restore, Dialogue.run_bind_eq_ok, Dialogue.run_files_eq_ok] at h
  obtain ⟨files, ρ, -, h⟩ := h
  split at h
  · obtain ⟨hnone, -⟩ := Dialogue.run_pure_eq_ok.mp h
    obtain ⟨rfl, -⟩ := Prod.mk.inj hnone
    exact restores_nil _
  · obtain ⟨yes, ρ', -, h⟩ := Dialogue.run_bind_eq_ok.mp h
    split at h
    · obtain ⟨name, ρ'', -, h⟩ := Dialogue.run_bind_eq_ok.mp h
      exact tryLoad_restores hwf h
    · obtain ⟨hnone, -⟩ := Dialogue.run_pure_eq_ok.mp h
      obtain ⟨rfl, -⟩ := Prod.mk.inj hnone
      exact restores_nil _

/-! ### Collected values -/

/-- The value of one parameter fits; there is one, because an internal parameter has a default. -/
theorem collectOne_fits {function : String} {restored : List (String × Given)} {p : Parameter}
    (hrestored : ∀ g, restored.lookup p.name = some g → g.Fits s p)
    (haccepted : ∀ v, p.default = some v → p.type.accepts v = true)
    (hinternal : p.isInternal = true → ∃ v, p.default = some v) {given : Option Given}
    {σ τ : Session} (h : (s.collectOne function restored p).run σ = .ok given τ) :
    ∃ g, given = some g ∧ g.Fits s p := by
  unfold collectOne at h
  split at h
  · rename_i hp
    obtain ⟨v, hv⟩ := hinternal hp
    obtain ⟨rfl, -⟩ := Dialogue.run_pure_eq_ok.mp h
    exact ⟨⟨v, none⟩, by rw [hv]; rfl, Given.Fits.ofDefault hv (haccepted v hv)⟩
  · rename_i hp
    split at h
    · rename_i g hlookup
      obtain ⟨rfl, -⟩ := Dialogue.run_pure_eq_ok.mp h
      exact ⟨g, rfl, hrestored g hlookup⟩
    · obtain ⟨g, hask, rfl⟩ := Dialogue.run_map_eq_ok.mp h
      exact ⟨g, rfl, ask_fits (by simpa using hp) haccepted hask⟩

/-- The parameters that are not overridden get one fitting value each, in their order. -/
theorem collectFrom_fits {function : String} {restored : List (String × Given)}
    {params : List Parameter} (hrestored : s.Restores params restored)
    (haccepted : ∀ p ∈ params, ∀ v, p.default = some v → p.type.accepts v = true)
    (hinternal : ∀ p ∈ params, p.isInternal = true → ∃ v, p.default = some v)
    {c c' : Collection} {σ τ : Session}
    (h : (s.collectFrom function overrides restored params c).run σ = .ok c' τ) :
    ∃ gs : Givens, gs.map (·.1) = params.filter (fun p => !overrides.contains p.name)
      ∧ (∀ p g, (p, g) ∈ gs → g.Fits s p) ∧ c' = c.addAll gs := by
  induction params generalizing c σ with
  | nil =>
    obtain ⟨rfl, -⟩ := Dialogue.run_pure_eq_ok.mp h
    exact ⟨[], rfl, by simp, rfl⟩
  | cons p params ih =>
    -- Both branches go on with the rest, so the hypotheses are made to fit it once.
    have ih' {c : Collection} {σ : Session} :=
      @ih (fun q hq => hrestored q (List.mem_cons_of_mem p hq))
        (fun q hq => haccepted q (List.mem_cons_of_mem p hq))
        (fun q hq => hinternal q (List.mem_cons_of_mem p hq)) c σ
    rw [collectFrom] at h
    split at h
    · rename_i hoverride
      obtain ⟨gs, hkeys, hfits, hc⟩ := ih' h
      exact ⟨gs, by rw [hkeys, List.filter_cons_of_neg (by simp [hoverride])], hfits, hc⟩
    · rename_i hasked
      obtain ⟨given, ρ, hone, hrest⟩ := Dialogue.run_bind_eq_ok.mp h
      obtain ⟨g, rfl, hfit⟩ := collectOne_fits (hrestored p List.mem_cons_self)
        (haccepted p List.mem_cons_self) (hinternal p List.mem_cons_self) hone
      obtain ⟨gs, hkeys, hfits, hc⟩ := ih' hrest
      refine ⟨(p, g) :: gs, ?_, ?_, hc⟩
      · rw [List.map_cons, hkeys, List.filter_cons_of_pos (by simpa using hasked)]
      · intro q g' hmem
        rcases List.mem_cons.mp hmem with heq | hmem
        · obtain ⟨rfl, rfl⟩ := Prod.mk.inj heq
          exact hfit
        · exact hfits q g' hmem

/-- **Collecting.** What has been collected is one fitting value for each parameter that is not
    overridden, in the order of the parameters. -/
theorem collect_holds {signature : Signature} (hwf : signature.WellFormed) {c : Collection}
    {σ τ : Session} (h : (s.collect signature overrides).run σ = .ok c τ) :
    ∃ gs : Givens, gs.map (·.1) = signature.params.filter (fun p => !overrides.contains p.name)
      ∧ (∀ p g, (p, g) ∈ gs → g.Fits s p) ∧ c.Holds gs := by
  -- With or without a store, the questions start from an empty collection.
  have hcollected {restored : List (String × Given)} {restoredFrom : Option String}
      (hrestored : s.Restores signature.params restored) {c : Collection} {σ τ : Session}
      (hrun : (s.collectFrom signature.name overrides restored signature.params
        (Collection.start restoredFrom)).run σ = .ok c τ) :
      ∃ gs : Givens, gs.map (·.1) = signature.params.filter (fun p => !overrides.contains p.name)
        ∧ (∀ p g, (p, g) ∈ gs → g.Fits s p) ∧ c.Holds gs := by
    obtain ⟨gs, hkeys, hfits, rfl⟩ := collectFrom_fits hrestored hwf.accepted hwf.internal hrun
    refine ⟨gs, hkeys, hfits, Collection.addAll_holds (Collection.start_holds restoredFrom) ?_⟩
    rw [List.nil_append, hkeys]
    exact hwf.distinct.sublist (List.filter_sublist.map _)
  unfold collect at h
  split at h
  · obtain ⟨⟨restored, restoredFrom⟩, ρ, hrestore, h⟩ := Dialogue.run_bind_eq_ok.mp h
    obtain ⟨c', ρ', hrun, h⟩ := Dialogue.run_bind_eq_ok.mp h
    obtain ⟨path, ρ'', -, h⟩ := Dialogue.run_bind_eq_ok.mp h
    obtain ⟨rfl, -⟩ := Dialogue.run_pure_eq_ok.mp h
    obtain ⟨gs, hkeys, hfits, hholds⟩ := hcollected (restore_restores hwf hrestore) hrun
    exact ⟨gs, hkeys, hfits, hholds.arguments, hholds.tokens⟩
  · obtain ⟨⟨restored, restoredFrom⟩, ρ, hrestore, h⟩ := Dialogue.run_bind_eq_ok.mp h
    obtain ⟨hnone, -⟩ := Dialogue.run_pure_eq_ok.mp hrestore
    obtain ⟨rfl, rfl⟩ := Prod.mk.inj hnone
    obtain ⟨c', ρ', hrun, h⟩ := Dialogue.run_bind_eq_ok.mp h
    obtain ⟨rfl, -⟩ := Dialogue.run_pure_eq_ok.mp h
    exact hcollected (restores_nil _) hrun

end Setup

/-! ### What a collection tells -/

/-- The values and answers of a collection are those of the parameters, and agree. -/
structure Collection.IsFaithful (s : Setup) (signature : Signature) (overrides : Arguments)
    (c : Collection) : Prop where
  /-- The values belong to the declared parameters that are not overridden, in their order. -/
  keys : Keyed.keys c.arguments.entries
    = (signature.params.map (·.name)).filter fun name => !overrides.contains name
  accepted : ∀ p ∈ signature.params, overrides.contains p.name = false →
    ∃ v, c.arguments.get? p.name = some v ∧ p.type.accepts v = true
  /-- The answers come in the order of the parameters. -/
  inOrder : (Keyed.keys c.tokens).Sublist (signature.params.map (·.name))
  once : (Keyed.keys c.tokens).Nodup
  /-- There are no answers for overridden and internal parameters. -/
  asked : ∀ p ∈ signature.params, p.name ∈ Keyed.keys c.tokens →
    overrides.contains p.name = false ∧ p.isInternal = false
  /-- An answer gives the value that it has given again. -/
  answers : ∀ name token, (name, token) ∈ c.tokens →
    token ≠ "" ∧ Text.trimmed token = token
      ∧ ∃ v, c.arguments.get? name = some v ∧ Answer.evaluate s.functions token = .ok v
  defaults : ∀ p ∈ signature.params, overrides.contains p.name = false →
    p.name ∉ Keyed.keys c.tokens →
      ∃ v, c.arguments.get? p.name = some v ∧ p.default = some v

namespace Collection

variable {s : Setup} {signature : Signature} {overrides : Arguments} {gs : Givens}
  {c : Collection}

/-- The value of a parameter is the given one. -/
theorem Holds.get? (h : c.Holds gs) (hdistinct : ((gs.map (·.1)).map (·.name)).Nodup)
    {p : Parameter} {g : Given} (hmem : (p, g) ∈ gs) :
    c.arguments.get? p.name = some g.value := by
  rw [Arguments.get?, h.arguments]
  apply Keyed.lookup_of_mem
  · rwa [Givens.keys_values]
  · exact List.mem_map.mpr ⟨(p, g), hmem, rfl⟩

/-- One fitting value for each parameter that is not overridden is all that is needed. -/
theorem Holds.isFaithful (h : c.Holds gs) (hwf : signature.WellFormed)
    (hkeys : gs.map (·.1) = signature.params.filter (fun p => !overrides.contains p.name))
    (hfits : ∀ p g, (p, g) ∈ gs → g.Fits s p) : c.IsFaithful s signature overrides := by
  have hdistinct : ((gs.map (·.1)).map (·.name)).Nodup := by
    rw [hkeys]
    exact hwf.distinct.sublist (List.filter_sublist.map _)
  have hgiven (p : Parameter) (hp : p ∈ signature.params)
      (hoverride : overrides.contains p.name = false) : ∃ g, (p, g) ∈ gs := by
    have hmem : p ∈ gs.map (·.1) := by
      rw [hkeys, List.mem_filter]
      exact ⟨hp, by rw [hoverride]; rfl⟩
    obtain ⟨⟨q, g⟩, hpair, rfl⟩ := List.mem_map.mp hmem
    exact ⟨g, hpair⟩
  have hparam (p : Parameter) (g : Given) (hmem : (p, g) ∈ gs) :
      p ∈ signature.params ∧ overrides.contains p.name = false := by
    have hmem' : p ∈ gs.map (·.1) := List.mem_map_of_mem (f := (·.1)) hmem
    rw [hkeys, List.mem_filter] at hmem'
    exact ⟨hmem'.1, by simpa using hmem'.2⟩
  have hsublist : (Keyed.keys c.tokens).Sublist ((gs.map (·.1)).map (·.name)) := by
    rw [h.tokens]
    exact gs.keys_tokens_sublist
  have htoken (name token : String) (hmem : (name, token) ∈ c.tokens) :
      ∃ p g, (p, g) ∈ gs ∧ p.name = name ∧ g.token = some token := by
    rw [h.tokens] at hmem
    exact Givens.mem_tokens.mp hmem
  constructor
  case keys =>
    rw [h.arguments, Givens.keys_values, hkeys, List.filter_map]
    rfl
  case accepted =>
    intro p hp hoverride
    obtain ⟨g, hmem⟩ := hgiven p hp hoverride
    exact ⟨g.value, h.get? hdistinct hmem, (hfits p g hmem).accepted⟩
  case inOrder =>
    rw [hkeys] at hsublist
    exact hsublist.trans (List.filter_sublist.map _)
  case once => exact hdistinct.sublist hsublist
  case asked =>
    intro p hp hmem
    obtain ⟨⟨name, token⟩, hpair, hname⟩ := List.mem_map.mp hmem
    obtain ⟨q, g, hq, hqname, hg⟩ := htoken name token hpair
    obtain rfl := Setup.eq_of_name_eq hwf.distinct (hparam q g hq).1 hp (hqname.trans hname)
    exact ⟨(hparam q g hq).2, (hfits q g hq).asked (by simp [hg])⟩
  case answers =>
    intro name token hmem
    obtain ⟨p, g, hpair, rfl, hg⟩ := htoken name token hmem
    obtain ⟨hne, htrimmed, heval⟩ := (hfits p g hpair).token token hg
    exact ⟨hne, htrimmed, g.value, h.get? hdistinct hpair, heval⟩
  case defaults =>
    intro p hp hoverride hno
    obtain ⟨g, hmem⟩ := hgiven p hp hoverride
    refine ⟨g.value, h.get? hdistinct hmem, (hfits p g hmem).default ?_⟩
    -- an answer of this parameter would be one of the collection's
    by_contra hsome
    obtain ⟨token, hg⟩ := Option.ne_none_iff_exists'.mp hsome
    apply hno
    rw [h.tokens]
    exact List.mem_map.mpr ⟨(p.name, token), Givens.mem_tokens.mpr ⟨p, g, hmem, rfl, hg⟩, rfl⟩

end Collection

/-- **Faithful collections.** Whatever is overridden, saved, known by name and answered, what a run
    of questions collects for a built signature is faithful. -/
theorem Setup.collect_faithful {name : String} {steps : List Signature.Step}
    {signature : Signature} (hbuild : Signature.build name steps = .ok signature) (s : Setup)
    (overrides : Arguments) {before after : Session} {c : Collection}
    (h : (s.collect signature overrides).run before = .ok c after) :
    c.IsFaithful s signature overrides := by
  have hwf := (Signature.build_wellFormed hbuild).1
  obtain ⟨gs, hkeys, hfits, hholds⟩ := collect_holds hwf h
  exact hholds.isFaithful hwf hkeys hfits

/-- An internal, an entered, a default and an overridden parameter. -/
theorem Setup.collect_faithful_entered :
    ∃ signature c after,
      Signature.build "f" [.param "_k" "int" (some (.int 1)), .param "a" "str" none,
        .param "b" "int" (some (.int 2)), .param "d" "int" none] = .ok signature
      ∧ (Setup.collect ⟨[], ⟨0⟩, false, "."⟩ signature ⟨[("d", .int 4)]⟩).run
          ⟨["4 +", " 'x' ", ""], ⟨[], 0⟩, []⟩ = .ok c after
      ∧ Collection.IsFaithful ⟨[], ⟨0⟩, false, "."⟩ signature ⟨[("d", .int 4)]⟩ c := by
  -- The signature is kept behind an equation, so that the run is evaluated only where it is asked
  -- for.
  obtain ⟨signature, hsignature⟩ : ∃ signature : Signature, signature = ⟨"f", none,
      [⟨"_k", .int, some (.int 1), none⟩, ⟨"a", .str, none, none⟩,
        ⟨"b", .int, some (.int 2), none⟩, ⟨"d", .int, none, none⟩]⟩ := ⟨_, rfl⟩
  have hbuild : Signature.build "f" [.param "_k" "int" (some (.int 1)), .param "a" "str" none,
      .param "b" "int" (some (.int 2)), .param "d" "int" none] = .ok signature := by
    rw [hsignature]
    rfl
  obtain ⟨c, after, hrun⟩ : ∃ c after,
      (Setup.collect ⟨[], ⟨0⟩, false, "."⟩ signature ⟨[("d", .int 4)]⟩).run
        ⟨["4 +", " 'x' ", ""], ⟨[], 0⟩, []⟩ = .ok c after := by
    rw [hsignature]
    exact ⟨_, _, rfl⟩
  exact ⟨signature, c, after, hbuild, hrun, Setup.collect_faithful hbuild _ _ hrun⟩

end Questionnaire
