import Questionnaire.Proofs.FileTree.Content
import Questionnaire.Proofs.Session.Parallel

namespace Questionnaire

/-!
# What a run of questions does not depend on

* `Store.list_blank`, `Store.save_blank` — listing and saving do not look at content.
* `Setup.loadAll_congr` — loading looks at the answers for the parameters that are not overridden.
* `Setup.collect_indifferent` — the values of overrides, and what a saved file holds beyond those
  answers, are no matter to a run of questions.
-/

/-! ### The store -/

namespace Store

open FileTree (blankAt_directory blankAt_file)

variable (s : Store) (t : FileTree) (place : Place)

/-- What is listed depends on names and times only. -/
theorem listed_blank : s.listed (t.blank place) = s.listed t := by
  unfold listed FileTree.entries
  rw [FileTree.locate_blank]
  cases t.locate s.directory with
  | error e => rfl
  | ok other =>
    simp only [bind, Except.bind, FileTree.node_blank]
    -- The listing reads names and times and no content, so the file that was made blank stays in
    -- it.
    cases t.node? other with
    | none => rfl
    | some node =>
      cases node with
      | file content time =>
        obtain ⟨content', hcontent⟩ := blankAt_file place other content time
        simp only [Option.map_some, hcontent]
      | directory =>
        simp only [Option.map_some, blankAt_directory]
        apply FileTree.filterMap_entriesAt_blank
        intro name node
        cases node <;> rfl

/-- The list, with its order, depends on names and times only. -/
theorem list_blank : s.list (t.blank place) = s.list t := by
  rw [list_eq, list_eq, listed_blank]

/-- Directories are prepared in a blanked tree as in the other. -/
theorem prepare_blank :
    s.prepare (t.blank place) = ((s.prepare t).1, (s.prepare t).2.blank place) := by
  unfold prepare isPresent
  rw [FileTree.isDirectory_blank, FileTree.makeDirectories_blank]
  split <;> rfl

/-- Saving into a blanked tree does the same, but for the content. -/
theorem save_blank (name : String) (saved : Saved) :
    (s.save (t.blank place) name saved).1 = (s.save t name saved).1
      ∧ (s.save (t.blank place) name saved).2.blank place
        = (s.save t name saved).2.blank place := by
  unfold save
  rw [prepare_blank]
  obtain ⟨result, files⟩ := s.prepare t
  cases result with
  | error e => exact ⟨rfl, FileTree.blank_blank files place⟩
  | ok u =>
    have hwrite := FileTree.write_blank files place (s.pathFor name)
      (saved.document s.function).toUTF8
    dsimp only
    -- Both runs write the same text at the same path; whether they can does not depend on any
    -- content.
    cases h : (files.blank place).write (s.pathFor name) (saved.document s.function).toUTF8 with
    | error e =>
      cases h' : files.write (s.pathFor name) (saved.document s.function).toUTF8 with
      | error e' =>
        rw [h, h'] at hwrite
        obtain rfl := Except.error.inj hwrite
        exact ⟨rfl, FileTree.blank_blank files place⟩
      | ok written' =>
        rw [h, h'] at hwrite
        cases hwrite
    | ok written =>
      cases h' : files.write (s.pathFor name) (saved.document s.function).toUTF8 with
      | error e' =>
        rw [h, h'] at hwrite
        cases hwrite
      | ok written' =>
        rw [h, h'] at hwrite
        exact ⟨rfl, Except.ok.inj hwrite⟩

end Store

namespace Setup

variable {s : Setup} {signature : Signature} {overrides overrides' : Arguments}

/-! ### Loading -/

/-- Two configurations have the same answers for the parameters that are loaded. -/
def AgreeOn (signature : Signature) (overrides : Arguments) (saved saved' : Saved) : Prop :=
  ∀ p ∈ signature.params, overrides.contains p.name = false → p.isInternal = false →
    saved.get? p.name = saved'.get? p.name

/-- Loading looks at which parameters are overridden, and at the answers for the others. -/
theorem loadAll_congr {saved saved' : Saved} {params : List Parameter}
    (hoverrides : ∀ name, overrides.contains name = overrides'.contains name)
    (hsaved : ∀ p ∈ params, overrides.contains p.name = false → p.isInternal = false →
      saved.get? p.name = saved'.get? p.name) :
    s.loadAll overrides saved params = s.loadAll overrides' saved' params := by
  -- The induction is on the parameters; an override is only asked whether it is there.
  induction params with
  | nil => rfl
  | cons p params ih =>
    have hrest := ih fun q hq => hsaved q (List.mem_cons_of_mem p hq)
    rw [loadAll, loadAll, ← hoverrides p.name, hrest]
    split
    · rfl
    · rename_i hloaded
      obtain ⟨hoverride, hinternal⟩ : overrides.contains p.name = false ∧ p.isInternal = false := by
        simpa using hloaded
      have hone : s.loadParameter saved p = s.loadParameter saved' p := by
        rw [loadParameter, loadParameter, hsaved p List.mem_cons_self hoverride hinternal]
      rw [hone]

/-! ### Overrides -/

variable (hoverrides : ∀ name, overrides.contains name = overrides'.contains name)

include hoverrides

/-- Loading depends only on which parameters are overridden. -/
theorem tryLoad_congr (name : String) :
    s.tryLoad signature overrides name = s.tryLoad signature overrides' name := by
  have hload (files : FileTree) : s.load signature overrides (s.store signature) files name
      = s.load signature overrides' (s.store signature) files name := by
    refine bind_congr fun saved => ?_
    exact loadAll_congr hoverrides fun _ _ _ _ => rfl
  simp only [tryLoad, hload]

/-- Collecting depends only on which parameters are overridden. -/
theorem collectFrom_congr (function : String) (restored : List (String × Given))
    (params : List Parameter) (c : Collection) :
    s.collectFrom function overrides restored params c
      = s.collectFrom function overrides' restored params c := by
  induction params generalizing c with
  | nil => rfl
  | cons p params ih =>
    rw [collectFrom, collectFrom, ← hoverrides p.name]
    simp only [ih]

/-- A run of questions depends on which parameters are overridden, and not on how. -/
theorem collect_congr : s.collect signature overrides = s.collect signature overrides' := by
  have hrestore : s.restore signature overrides = s.restore signature overrides' := by
    simp only [restore, tryLoad_congr hoverrides]
  rw [collect_eq, collect_eq, hrestore]
  refine bind_congr fun restored => ?_
  simp only [collectRest, collectFrom_congr hoverrides]

omit hoverrides

/-! ### Saved files -/

/-- Saving to a blanked tree is saving to the other. -/
theorem SavesSame.blank (s : Setup) (signature : Signature) (place : Place) :
    s.SavesSame signature fun t t' => t.blank place = t'.blank place where
  result t t' h name saved := by
    rw [← (Store.save_blank (s.store signature) t place name saved).1, h,
      (Store.save_blank (s.store signature) t' place name saved).1]
  files t t' h name saved := by
    rw [← (Store.save_blank (s.store signature) t place name saved).2, h,
      (Store.save_blank (s.store signature) t' place name saved).2]

/-- Of a saved file, only the answers for the parameters that are loaded are read. -/
theorem ReadsSame.blank {t t' : FileTree} {name : String} {place : Place} {saved saved' : Saved}
    (hplace : t.locate ((s.store signature).pathFor name) = .ok place)
    (hblank : t.blank place = t'.blank place)
    (hsaved : (s.store signature).restore t name = .ok saved)
    (hsaved' : (s.store signature).restore t' name = .ok saved')
    (hagree : AgreeOn signature overrides saved saved') :
    s.ReadsSame signature overrides fun u u' => u = t ∧ u' = t' where
  list := by
    rintro _ _ ⟨rfl, rfl⟩
    rw [← Store.list_blank _ _ place, hblank, Store.list_blank]
  isFile := by
    rintro _ _ ⟨rfl, rfl⟩ other
    rw [← FileTree.isFile_blank _ place, hblank, FileTree.isFile_blank]
  load := by
    rintro t t' ⟨rfl, rfl⟩ other
    by_cases hother : t.locate ((s.store signature).pathFor other) = .ok place
    · -- whatever name leads to the file, what it holds is restored
      have hrestore {u : FileTree} {kept : Saved}
          (hlocate : u.locate ((s.store signature).pathFor other)
            = u.locate ((s.store signature).pathFor name))
          (h : (s.store signature).restore u name = .ok kept) :
          (s.store signature).restore u other = .ok kept := by
        obtain ⟨text, htext, hread⟩ := Store.restore_eq_ok.mp h
        refine Store.restore_eq_ok.mpr ⟨text, ?_, hread⟩
        rw [FileTree.readText_congr hlocate fun _ _ => rfl, htext]
      have hsame := hother.trans hplace.symm
      have hsame' := hsame
      rw [FileTree.locate_of_blank_eq hblank, FileTree.locate_of_blank_eq hblank] at hsame'
      unfold Setup.load
      rw [hrestore hsame hsaved, hrestore hsame' hsaved']
      exact loadAll_congr (fun _ => rfl) hagree
    · -- every other file is the same in both trees
      have htext : t.readText ((s.store signature).pathFor other)
          = t'.readText ((s.store signature).pathFor other) := by
        apply FileTree.readText_congr (FileTree.locate_of_blank_eq hblank _)
        rintro found hfound
        apply FileTree.node_of_blank_eq hblank
        rintro rfl
        exact hother hfound
      have hrestore : (s.store signature).restore t other
          = (s.store signature).restore t' other := by
        unfold Store.restore
        dsimp only
        rw [htext]
      unfold Setup.load
      rw [hrestore]

/-! ### Runs that are the same -/

/-- Two sessions that are the same, except that the file at a place need not hold the same. -/
structure AlikeBut (place : Place) (τ τ' : Session) : Prop where
  answers : τ'.answers = τ.answers
  events : τ'.events = τ.events
  files : τ'.files.blank place = τ.files.blank place

/-- What a run of questions has saved is told by its collection, but for the time. -/
theorem collect_find {c : Collection} {path : String} {σ τ : Session}
    (h : (s.collect signature overrides).run σ = .ok c τ) (hpath : c.savedTo = some path) :
    ∃ time, τ.files.find path
      = .ok (.file (Saved.document (s.store signature).function ⟨c.tokens⟩).toUTF8 time) := by
  obtain ⟨name, files, -, -, -, hsave⟩ := collect_saved (collect_savedTo h hpath) h hpath
  exact Store.find_save hsave

/-- **What does not matter.** The values of overrides are no matter to a run of questions, nor is
    what a saved file holds beyond the answers for parameters that are loaded.  Where the answers
    are saved, they are saved alike. -/
theorem collect_indifferent (s : Setup) (signature : Signature) :
    (∀ overrides overrides' : Arguments,
      (∀ name, overrides.contains name = overrides'.contains name) →
        s.collect signature overrides = s.collect signature overrides')
    ∧ ∀ (overrides : Arguments) (σ : Session) (files' : FileTree) (name : String) (place : Place)
        (saved saved' : Saved),
      σ.files.locate ((s.store signature).pathFor name) = .ok place →
      σ.files.blank place = files'.blank place →
      (s.store signature).restore σ.files name = .ok saved →
      (s.store signature).restore files' name = .ok saved' →
      AgreeOn signature overrides saved saved' →
        Dialogue.EndAlike (AlikeBut place) ((s.collect signature overrides).run σ)
          ((s.collect signature overrides).run { σ with files := files' })
        ∧ ∀ c τ c' τ' path, (s.collect signature overrides).run σ = .ok c τ →
          (s.collect signature overrides).run { σ with files := files' } = .ok c' τ' →
          c.savedTo = some path → τ'.files.find path = τ.files.find path := by
  refine ⟨fun _ _ h => collect_congr h, ?_⟩
  intro overrides σ files' name place saved saved' hplace hblank hsaved hsaved' hagree
  have halike : Dialogue.EndAlike (AlikeBut place) ((s.collect signature overrides).run σ)
      ((s.collect signature overrides).run { σ with files := files' }) := by
    apply (collect_parallel (ReadsSame.blank hplace hblank hsaved hsaved' hagree)
      (SavesSame.blank s signature place) _).endAlike (l := ⟨[], σ.events, σ.events⟩) rfl
    · rintro τ τ' ⟨hanswers, hfiles, since, hevents, hevents'⟩
      exact ⟨by simpa using hanswers, hevents'.trans hevents.symm, hfiles.symm⟩
    · exact ⟨by simp, ⟨rfl, rfl⟩, [], by simp, by simp⟩
    · rintro t t' ⟨rfl, rfl⟩
      exact hblank
  refine ⟨halike, ?_⟩
  intro c τ c' τ' path hrun hrun' hpath
  rw [hrun, hrun'] at halike
  obtain ⟨rfl, -, -, hfiles⟩ := halike
  -- what is saved is told by the collection, which is the same
  obtain ⟨time, hfind⟩ := collect_find hrun hpath
  obtain ⟨time', hfind'⟩ := collect_find hrun' hpath
  exact FileTree.find_of_blank_eq hfiles.symm hfind hfind'

/-- Another value of an override, and other keys in the saved file, make no difference. -/
theorem collect_indifferent_keys :
    ∃ signature : Signature,
      Signature.build "f" [.param "m" "int" none, .param "n" "int" none] = .ok signature
      ∧ Setup.collect ⟨[], ⟨0⟩, true, "."⟩ signature ⟨[("m", .int 1)]⟩
        = Setup.collect ⟨[], ⟨0⟩, true, "."⟩ signature ⟨[("m", .int 2)]⟩
      ∧ Dialogue.EndAlike (AlikeBut ["f-saves", "a.f"])
        ((Setup.collect ⟨[], ⟨0⟩, true, "."⟩ signature ⟨[("m", .int 1)]⟩).run
          ⟨["True", "'a'", "False"],
            Store.single "function = 'f'\n[values]\nn = '5'\nm = '('\nz = '('\n", []⟩)
        ((Setup.collect ⟨[], ⟨0⟩, true, "."⟩ signature ⟨[("m", .int 1)]⟩).run
          ⟨["True", "'a'", "False"],
            Store.single "function = 'f'\n[values]\ny = ''\nn = '5'\n", []⟩) := by
  -- The files differ in the answers of the overridden parameter and of a name that nobody declared.
  obtain ⟨hoverrides, hsaved⟩ := collect_indifferent ⟨[], ⟨0⟩, true, "."⟩
    ⟨"f", none, [⟨"m", .int, none, none⟩, ⟨"n", .int, none, none⟩]⟩
  refine ⟨_, rfl, hoverrides _ _ ?_, And.left (hsaved _ _ _ "a" _
    ⟨[("n", "5"), ("m", "("), ("z", "(")]⟩ ⟨[("y", ""), ("n", "5")]⟩ rfl rfl ?_ ?_ ?_)⟩
  · intro name
    simp only [Arguments.contains, Arguments.get?, List.lookup_cons]
    cases name == "m" <;> rfl
  · exact Store.restore_single.mpr (by decide +kernel)
  · exact Store.restore_single.mpr (by decide +kernel)
  · intro p hp hoverride _
    simp only [List.mem_cons, List.not_mem_nil, or_false] at hp
    rcases hp with rfl | rfl
    · cases hoverride
    · rfl

end Setup

end Questionnaire
