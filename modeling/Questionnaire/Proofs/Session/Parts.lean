import Questionnaire.Proofs.Session.Exchange
import Questionnaire.Proofs.Session.Restore

namespace Questionnaire

/-!
# The parts of a run of questions

A run of questions restores a configuration, asks for what is missing, and saves the answers.  Here
stands once what each part does, so that nothing after this needs to open them.

* `Setup.restore_run_eq` — restoring is a decision, the choice of a name, and loading.
* `Setup.tryLoad_run_failed` — what cannot be loaded is reported, and nothing is restored.
* `Setup.collect_eq` — a run of questions is restoring and then `Setup.collectRest`.
-/

namespace Setup

variable {s : Setup} {signature : Signature} {overrides : Arguments}

/-! ### Questions that leave files alone -/

/-- A question for a value leaves files alone. -/
theorem ask_files {q : Question} {given : Given} {σ τ : Session}
    (h : (s.ask q).run σ = .ok given τ) : τ.files = σ.files := by
  obtain ⟨answers, events, hputs, -, -⟩ := Dialogue.put_run_eq_ok.mp h
  exact hputs.files_eq

/-- A decision is what the value of an answer says. -/
theorem confirm_run_eq_ok {q : Question} {yes : Bool} {σ τ : Session} :
    (s.confirm q).run σ = .ok yes τ
      ↔ ∃ given, (s.ask q).run σ = .ok given τ ∧ given.value.asBool?.getD false = yes := by
  rw [confirm, Dialogue.run_bind_eq_ok]
  constructor
  · rintro ⟨given, ρ, hask, hpure⟩
    obtain ⟨hyes, rfl⟩ := Dialogue.run_pure_eq_ok.mp hpure
    exact ⟨given, hask, hyes⟩
  · rintro ⟨given, hask, hyes⟩
    exact ⟨given, τ, hask, Dialogue.run_pure_eq_ok.mpr ⟨hyes, rfl⟩⟩

/-- A decision leaves files alone. -/
theorem confirm_files {q : Question} {yes : Bool} {σ τ : Session}
    (h : (s.confirm q).run σ = .ok yes τ) : τ.files = σ.files := by
  obtain ⟨given, hask, -⟩ := confirm_run_eq_ok.mp h
  exact ask_files hask

/-- The question which of the configurations that are there is to be restored. -/
def chooseSaved (s : Setup) (signature : Signature) (files : FileTree) : Dialogue String :=
  Dialogue.put (s.savedNameQuestion signature files) fun current answer =>
    (s.judgeSavedName (s.store signature) ((s.store signature).list files)
      (s.savedNameQuestion signature files) current answer, current)

/-- The choice of a configuration leaves files alone. -/
theorem chooseSaved_files {files : FileTree} {name : String} {σ τ : Session}
    (h : (s.chooseSaved signature files).run σ = .ok name τ) : τ.files = σ.files := by
  obtain ⟨answers, events, hputs, -, -⟩ := Dialogue.put_run_eq_ok.mp h
  exact hputs.files_eq

/-- Only a configuration that is there is accepted. -/
theorem judgeSavedName_mem {store : Store} {names : List String} {q : Question} {files : FileTree}
    {name answer : String} (h : s.judgeSavedName store names q files answer = .accepted name) :
    name ∈ names ∧ files.isFile (store.pathFor name) = true := by
  obtain ⟨found, -, hfound⟩ := Judgment.bind_eq_accepted.mp h
  split at hfound
  · rename_i hlisted
    obtain rfl := Judgment.accepted.inj hfound
    rw [Bool.and_eq_true] at hlisted
    exact ⟨List.contains_iff_mem.mp hlisted.1, hlisted.2⟩
  · cases hfound

/-- Only a name that passes the check is read. -/
theorem readName_checked {q : Question} {name answer : String}
    (h : s.readName q answer = .accepted name) : Filename.check (.str name) = .ok name := by
  obtain ⟨given, -, hgiven⟩ := Judgment.bind_eq_accepted.mp h
  split at hgiven
  · rename_i found hcheck
    obtain rfl := Judgment.accepted.inj hgiven
    rw [← (Filename.check_ok hcheck).1]
    exact hcheck
  · cases hgiven

/-- Only a valid name is chosen. -/
theorem chooseSaved_checked {files : FileTree} {name : String} {σ τ : Session}
    (h : (s.chooseSaved signature files).run σ = .ok name τ) :
    Filename.check (.str name) = .ok name := by
  obtain ⟨current, answer, haccepted⟩ := Dialogue.put_accepted h
  obtain ⟨found, hname, hfound⟩ := Judgment.bind_eq_accepted.mp (Prod.mk.inj haccepted).1
  split at hfound
  · obtain rfl := Judgment.accepted.inj hfound
    exact readName_checked hname
  · cases hfound

/-- Only a configuration that is listed is chosen. -/
theorem chooseSaved_mem {files : FileTree} {name : String} {σ τ : Session}
    (h : (s.chooseSaved signature files).run σ = .ok name τ) :
    name ∈ (s.store signature).list files := by
  obtain ⟨current, answer, haccepted⟩ := Dialogue.put_accepted h
  exact (judgeSavedName_mem (Prod.mk.inj haccepted).1).1

/-! ### Loading -/

/-- What can be loaded is restored, and nothing is reported. -/
theorem tryLoad_run_ok {name : String} {restored : List (String × Given)} {σ : Session}
    (h : s.load signature overrides (s.store signature) σ.files name = .ok restored) :
    (s.tryLoad signature overrides name).run σ = .ok (restored, some name) σ := by
  rw [tryLoad, Dialogue.run_bind_eq_ok]
  exact ⟨σ.files, σ, Dialogue.run_files_eq_ok.mpr ⟨rfl, rfl⟩, by rw [h]; rfl⟩

/-- What cannot be loaded is reported, and nothing is restored. -/
theorem tryLoad_run_failed {name : String} {fault : LoadFault} {σ : Session}
    (h : s.load signature overrides (s.store signature) σ.files name = .error fault)
    (hcrash : fault.isCrash = false) :
    (s.tryLoad signature overrides name).run σ
      = .ok ([], none) (σ.note (.reported (s.notRestored name fault))) := by
  rw [tryLoad, Dialogue.run_bind_eq_ok]
  refine ⟨σ.files, σ, Dialogue.run_files_eq_ok.mpr ⟨rfl, rfl⟩, ?_⟩
  simp only [h, hcrash]
  rfl

/-- A saved answer whose evaluation breaks off ends the session. -/
theorem tryLoad_run_crashed {name : String} {fault : LoadFault} {σ : Session}
    (h : s.load signature overrides (s.store signature) σ.files name = .error fault)
    (hcrash : fault.isCrash = true) :
    (s.tryLoad signature overrides name).run σ = .error .crashed σ := by
  have hfiles : Dialogue.files.run σ = .ok σ.files σ := Dialogue.run_files_eq_ok.mpr ⟨rfl, rfl⟩
  rw [tryLoad, EStateM.run_bind, hfiles]
  simp only [h, hcrash]
  rfl

/-! ### Restoring -/

/-- Restoring is a decision, the choice of a name, and loading, if there is anything to restore. -/
theorem restore_run_eq (s : Setup) (signature : Signature) (overrides : Arguments) (σ : Session) :
    (s.restore signature overrides).run σ = EStateM.run
      (if (s.store signature).list σ.files = [] then pure ([], none)
      else do
        if ← s.confirm (.restore signature.name) then
          let name ← s.chooseSaved signature σ.files
          s.tryLoad signature overrides name
        else return ([], none)) σ := by
  have hfiles : Dialogue.files.run σ = .ok σ.files σ := Dialogue.run_files_eq_ok.mpr ⟨rfl, rfl⟩
  rw [restore, EStateM.run_bind, hfiles]
  unfold chooseSaved savedNameQuestion
  dsimp only
  cases (s.store signature).list σ.files with
  | nil => rfl
  | cons latest others => rfl

/-! ### After restoring -/

/-- Collecting values does not change what has been restored, and saves nothing. -/
theorem collectFrom_keeps {function : String} {restored : List (String × Given)}
    {params : List Parameter} {c c' : Collection} {σ τ : Session}
    (h : (s.collectFrom function overrides restored params c).run σ = .ok c' τ) :
    c'.restoredFrom = c.restoredFrom ∧ c'.savedTo = c.savedTo := by
  -- The induction is on the parameters; adding a value does not touch the names of the files.
  induction params generalizing c σ with
  | nil =>
    obtain ⟨rfl, -⟩ := Dialogue.run_pure_eq_ok.mp h
    exact ⟨rfl, rfl⟩
  | cons p params ih =>
    rw [collectFrom] at h
    split at h
    · exact ih h
    · obtain ⟨given, ρ, -, h⟩ := Dialogue.run_bind_eq_ok.mp h
      cases given with
      | none => exact ih h
      | some given => exact ih (c := c.add p.name given) h

/-- The part of a run of questions that comes after restoring. -/
def collectRest (s : Setup) (signature : Signature) (overrides : Arguments)
    (restored : List (String × Given) × Option String) : Dialogue Collection := do
  let c ← s.collectFrom signature.name overrides restored.1 signature.params
    (Collection.start restored.2)
  if s.enableSaves then return { c with savedTo := ← s.save signature c } else return c

/-- A run of questions is restoring, if there is a store, and what comes after it. -/
theorem collect_eq (s : Setup) (signature : Signature) (overrides : Arguments) :
    s.collect signature overrides
      = (if s.enableSaves then s.restore signature overrides else pure ([], none))
        >>= s.collectRest signature overrides := by
  cases hsaves : s.enableSaves <;> simp only [collect, hsaves] <;>
    exact bind_congr fun restored => by simp [collectRest, hsaves]

/-- What comes after restoring goes on where that has ended. -/
theorem collect_run_of_restore (hsaves : s.enableSaves = true)
    {restored : List (String × Given) × Option String} {σ ρ : Session}
    (h : (s.restore signature overrides).run σ = .ok restored ρ) :
    (s.collect signature overrides).run σ
      = (s.collectRest signature overrides restored).run ρ := by
  rw [collect_eq, if_pos hsaves, EStateM.run_bind, h]

/-- What comes after restoring does not change what has been restored. -/
theorem collectRest_restoredFrom {restored : List (String × Given) × Option String}
    {c : Collection} {σ τ : Session}
    (h : (s.collectRest signature overrides restored).run σ = .ok c τ) :
    c.restoredFrom = restored.2 := by
  obtain ⟨c', ρ, hfrom, h⟩ := Dialogue.run_bind_eq_ok.mp h
  have hkeeps := (collectFrom_keeps hfrom).1
  split at h
  · obtain ⟨written, ρ', -, h⟩ := Dialogue.run_bind_eq_ok.mp h
    obtain ⟨rfl, -⟩ := Dialogue.run_pure_eq_ok.mp h
    exact hkeeps
  · obtain ⟨rfl, -⟩ := Dialogue.run_pure_eq_ok.mp h
    exact hkeeps

/-- Only where there is a store is anything saved. -/
theorem collect_savedTo {c : Collection} {path : String} {σ τ : Session}
    (h : (s.collect signature overrides).run σ = .ok c τ) (hpath : c.savedTo = some path) :
    s.enableSaves = true := by
  rw [← Bool.not_eq_false]
  intro hsaves
  rw [collect_eq] at h
  obtain ⟨restored, ρ, -, h⟩ := Dialogue.run_bind_eq_ok.mp h
  obtain ⟨c', ρ', hfrom, h⟩ := Dialogue.run_bind_eq_ok.mp h
  rw [if_neg (by simp [hsaves])] at h
  obtain ⟨rfl, -⟩ := Dialogue.run_pure_eq_ok.mp h
  -- without a store, the path is that of the empty collection
  rw [(collectFrom_keeps hfrom).2] at hpath
  cases hpath

end Setup

end Questionnaire
