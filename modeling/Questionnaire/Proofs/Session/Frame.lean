import Questionnaire.Proofs.Session.Ending

namespace Questionnaire

/-!
# What a run of questions does to the files

A run of questions reads files and writes at most one.

* `Dialogue.Parallel.final_files` — a part that does the same whatever the files are leaves them.
* `Dialogue.Writes` — a part that makes directories on the way and writes with its last step.
* `Setup.collect_writes` — a run of questions is such a part.
* `Setup.collect_frame` — it leaves all files as they are, but for the one that it tells.  Without a
  store it does not look at them.
-/

variable {α β : Type}

namespace Dialogue

open Session (Link)

/-! ### Parts that leave files alone -/

/-- The files of two sessions, each known. -/
def Fixed (t t' : FileTree) : FileTree → FileTree → Prop := fun u u' => u = t ∧ u' = t'

/-- A part that does the same in all sessions whose files are fixed leaves them as they are. -/
theorem Parallel.final_files {x : Dialogue α} {σ : Session}
    (hx : ∀ l, Parallel l (Fixed σ.files σ.files) (Fixed σ.files σ.files) x) :
    (final (x.run σ)).files = σ.files := by
  have hsame : EndAlike (fun τ _ => τ.files = σ.files) (x.run σ) (x.run σ) :=
    (hx ⟨[], σ.events, σ.events⟩).endAlike rfl (fun _ _ h => h.files.1)
      ⟨by simp, ⟨rfl, rfl⟩, [], by simp, by simp⟩
  cases hrun : x.run σ with
  | ok a τ =>
    rw [hrun] at hsame
    exact hsame.2
  | error stop τ =>
    rw [hrun] at hsame
    exact hsame.2

/-! ### Parts that write with their last step -/

/-- A part ends after at most directories have been made.  If it has a result, `takes` tells what
    has been done to the files after that. -/
def Writes (takes : α → FileTree → FileTree → Prop) (σ : Session) :
    EStateM.Result Stop Session α → Prop
  | .ok a τ => ∃ t, σ.files.AddsDirectories t ∧ takes a t τ.files
  | .error _ τ => σ.files.AddsDirectories τ.files

variable {takes : α → FileTree → FileTree → Prop} {takes' : β → FileTree → FileTree → Prop}
  {σ : Session}

/-- What comes after a part that leaves files alone may write. -/
theorem Writes.bind {x : Dialogue α} {f : α → Dialogue β}
    (hx : (final (x.run σ)).files = σ.files)
    (hf : ∀ a ρ, x.run σ = .ok a ρ → Writes takes' ρ ((f a).run ρ)) :
    -- Only the second part may deposit a file, as the first one leaves the files alone.
    Writes takes' σ ((x >>= f).run σ) := by
  rw [EStateM.run_bind]
  cases hrun : x.run σ with
  | ok a ρ =>
    rw [hrun] at hx
    have hrest := hf a ρ hrun
    unfold Writes at hrest ⊢
    rw [show ρ.files = σ.files from hx] at hrest
    exact hrest
  | error stop τ =>
    rw [hrun] at hx
    show σ.files.AddsDirectories τ.files
    rw [show τ.files = σ.files from hx]
    exact .refl

/-- A part that does nothing writes nothing. -/
theorem Writes.pure {a : α} (h : takes a σ.files σ.files) :
    Writes takes σ ((pure a : Dialogue α).run σ) :=
  ⟨σ.files, .refl, h⟩

/-- What a part gives may be changed. -/
theorem Writes.map {x : Dialogue α} {f : α → β} (hx : Writes takes σ (x.run σ))
    (hf : ∀ a t t', takes a t t' → takes' (f a) t t') : Writes takes' σ ((f <$> x).run σ) := by
  rw [map_eq_pure_bind, EStateM.run_bind]
  cases hrun : x.run σ with
  | ok a τ =>
    rw [hrun] at hx
    obtain ⟨t, hmade, htakes⟩ := hx
    exact ⟨t, hmade, hf a t τ.files htakes⟩
  | error stop τ =>
    rw [hrun] at hx
    exact hx

/-- A question writes with the accepted answer, if all other answers make at most directories. -/
theorem Writes.put {q : Question} {judge : FileTree → String → Judgment α × FileTree}
    (haccepted : ∀ t answer a t', judge t answer = (.accepted a, t') → takes a t t')
    (hrefused : ∀ t answer report t', judge t answer = (.refused report, t') →
      t.AddsDirectories t')
    (hcrashed : ∀ t answer t', judge t answer = (.crashed, t') → t.AddsDirectories t')
    (σ : Session) : Writes takes σ ((put q judge).run σ) := by
  -- The induction is on the answers, and `h` says that what was refused so far has only added
  -- directories.
  have hput (answers : List String) (t : FileTree) (events : List Event)
      (h : σ.files.AddsDirectories t) : Writes takes σ (putTo q judge t events answers) := by
    induction answers generalizing t events with
    | nil => exact h
    | cons answer rest ih =>
      rw [putTo]
      cases hjudge : judge t answer with
      | mk j t' =>
        cases j with
        | accepted a => exact ⟨t, h, haccepted t answer a t' hjudge⟩
        | refused report => exact ih t' _ (h.trans (hrefused t answer report t' hjudge))
        | crashed => exact h.trans (hcrashed t answer t' hjudge)
  exact hput σ.answers σ.files σ.events .refl

end Dialogue

namespace Setup

open Dialogue (EndAlike Fixed Parallel Writes final)

variable {s : Setup} {signature : Signature} {overrides : Arguments}

/-! ### Questions, restoring and collecting -/

/-- A decision leaves the files as they are, however it ends. -/
theorem confirm_final (q : Question) (σ : Session) :
    (final ((s.confirm q).run σ)).files = σ.files :=
  Parallel.final_files fun _ => confirm_parallel q

/-- Files that stay the same are read in the same way. -/
theorem ReadsSame.fixed (s : Setup) (signature : Signature) (overrides : Arguments)
    (t : FileTree) : s.ReadsSame signature overrides (Fixed t t) := by
  constructor
  all_goals
    rintro _ _ ⟨rfl, rfl⟩
    simp

/-- Restoring leaves the files as they are, however it ends. -/
theorem restore_final (signature : Signature) (overrides : Arguments) (σ : Session) :
    (final ((s.restore signature overrides).run σ)).files = σ.files :=
  Parallel.final_files fun _ => restore_parallel (.fixed s signature overrides σ.files)

/-- Collecting leaves the files as they are, however it ends. -/
theorem collectFrom_final (function : String) (restored : List (String × Given))
    (params : List Parameter) (c : Collection) (σ : Session) :
    (final ((s.collectFrom function overrides restored params c).run σ)).files = σ.files :=
  Parallel.final_files fun _ => collectFrom_parallel function overrides restored params c

/-! ### Saving -/

/-- If a collection tells a path, its answers have been saved there under a valid name.  Otherwise
    nothing has been done. -/
def Keeps (s : Setup) (signature : Signature) (c : Collection) (before after : FileTree) : Prop :=
  match c.savedTo with
  | some path => ∃ name, Filename.check (.str name) = .ok name
      ∧ (s.store signature).save before name ⟨c.tokens⟩ = (.ok path, after)
  | none => after = before

/-- An accepted name keeps the answers under it. -/
theorem judgeNewName_keeps {c : Collection} {q : Question} {t t' : FileTree} {answer path : String}
    (h : s.judgeNewName (s.store signature) ⟨c.tokens⟩ q t answer = (.accepted path, t')) :
    s.Keeps signature { c with savedTo := some path } t t' := by
  obtain ⟨name, hcheck, -, -, hsave⟩ := judgeNewName_accepted h
  exact ⟨name, hcheck, hsave⟩

/-- A refused name makes directories at most. -/
theorem judgeNewName_refused {store : Store} {saved : Saved} {q : Question} {t t' : FileTree}
    {answer : String} {report : Report}
    (h : s.judgeNewName store saved q t answer = (.refused report, t')) : t.AddsDirectories t' := by
  unfold judgeNewName at h
  split at h
  · split at h
    · cases (Prod.mk.inj h).1
    · rename_i hsave
      obtain ⟨-, rfl⟩ := Prod.mk.inj h
      exact Store.save_failed hsave
  · obtain ⟨-, rfl⟩ := Prod.mk.inj h
    exact .refl
  · cases (Prod.mk.inj h).1

/-- An answer that breaks off changes no files. -/
theorem judgeNewName_broken {store : Store} {saved : Saved} {q : Question} {t t' : FileTree}
    {answer : String} (h : s.judgeNewName store saved q t answer = (.crashed, t')) : t' = t := by
  unfold judgeNewName at h
  split at h
  · split at h <;> cases (Prod.mk.inj h).1
  · cases (Prod.mk.inj h).1
  · exact (Prod.mk.inj h).2.symm

/-- Names that are refused, and names under which nothing can be saved, leave all files.  Only with
    a path has one been written. -/
theorem save_writes (c : Collection) (σ : Session) :
    Writes (fun path => s.Keeps signature { c with savedTo := path }) σ
      ((s.save signature c).run σ) := by
  apply Writes.bind (confirm_final _ σ)
  intro yes ρ _
  split
  · have hput (q : Question) : Writes (fun path => s.Keeps signature { c with savedTo := some path })
        ρ ((Dialogue.put q (s.judgeNewName (s.store signature) ⟨c.tokens⟩ q)).run ρ) := by
      apply Writes.put
      · exact fun _ _ _ _ => judgeNewName_keeps
      · exact fun _ _ _ _ => judgeNewName_refused
      · intro t answer t' hjudge
        rw [judgeNewName_broken hjudge]
        exact .refl
    exact (hput _).map fun _ _ _ h => h
  · exact Writes.pure rfl

/-! ### The whole run -/

/-- A run of questions makes at most directories, unless it ends by saving the answers. -/
theorem collect_writes (signature : Signature) (overrides : Arguments) (σ : Session) :
    Writes (s.Keeps signature) σ ((s.collect signature overrides).run σ) := by
  rw [collect_eq]
  have hrestore : (final ((if s.enableSaves then s.restore signature overrides
      else pure ([], none)).run σ)).files = σ.files := by
    split
    · exact restore_final signature overrides σ
    · rfl
  apply Writes.bind hrestore
  intro restored ρ _
  apply Writes.bind (collectFrom_final _ _ _ _ ρ)
  intro c ρ' hfrom
  split
  · rw [bind_pure_comp]
    exact (save_writes c ρ').map fun _ _ _ h => h
  · apply Writes.pure
    -- nothing has been saved yet, so the collection tells no path
    rw [Keeps, (collectFrom_keeps hfrom).2]
    rfl

/-- Without a store, a run of questions does not look at the files. -/
theorem collect_parallel_unsaved (hsaves : s.enableSaves = false) {l : Session.Link}
    {view : FileTree → FileTree → Prop} (signature : Signature) (overrides : Arguments) :
    Parallel l view view (s.collect signature overrides) := by
  rw [collect_eq, hsaves]
  apply (Parallel.pure _).bind
  intro restored
  apply (collectFrom_parallel _ _ _ _ _).bind
  intro c
  rw [if_neg (by simp [hsaves])]
  exact .pure c

/-- The answers of a collection have been saved under a name: in a file of the directory of the
    store, which is the only one that has changed, and from which they are restored. -/
structure Deposits (s : Setup) (signature : Signature) (c : Collection) (before after : FileTree)
    (path name : String) (directory : Place) : Prop where
  valid : Filename.check (.str name) = .ok name
  path_eq : path = Path.join (Path.join s.savesRoot (signature.name ++ "-saves"))
    (name ++ "." ++ signature.name)
  below : after.locate (Path.join s.savesRoot (signature.name ++ "-saves")) = .ok directory
  place : after.locate path = .ok (directory ++ [name ++ "." ++ signature.name])
  others : ∀ place, place ≠ directory ++ [name ++ "." ++ signature.name] →
    after.file? place = before.file? place
  restored : (s.store signature).restore after name = .ok ⟨c.tokens⟩

/-- Answers that are kept are deposited in one file, below directories that are made for it. -/
theorem Keeps.deposits (hwf : signature.WellFormed) (hslash : '/' ∉ signature.name.toList)
    {c : Collection} (hnodup : (Keyed.keys c.tokens).Nodup) {path : String}
    (hpath : c.savedTo = some path) {t before after : FileTree}
    (hmade : before.AddsDirectories t) (h : s.Keeps signature c t after) :
    ∃ name directory, s.Deposits signature c before after path name directory := by
  rw [Keeps, hpath] at h
  obtain ⟨name, hcheck, hsave⟩ := h
  obtain ⟨-, hne, hnameSlash⟩ := Filename.check_ok hcheck
  have hbase : Path.IsBase (s.store signature).directory := Store.isBase_below _ _
  -- The store lies below the directory it was given, so its path is a place in the tree.
  obtain ⟨hpath, made, directory, hprepared, hbelow, hdirectory, hlocate, hnode, rfl⟩ :=
    Store.save_below hbase hwf.named hslash hne hnameSlash hsave
  have hplace := FileTree.isBase_of_node hnode
  have hending : name ++ (s.store signature).ending = name ++ "." ++ signature.name :=
    String.append_assoc.symm
  refine ⟨name, directory, hcheck, ?_, FileTree.locate_setNode hplace hnode _ hbelow, ?_, ?_,
    (Store.save_keeps hbase hwf.named hslash hne hnameSlash hnodup hsave).restored⟩
  · rw [hpath, ← hending]
    rfl
  · rw [hpath, ← hending]
    exact FileTree.locate_setNode hplace hnode _ hlocate
  -- Another place is another name or another directory, and the saving wrote only there.
  · intro place hother
    rw [← hending] at hother
    rw [FileTree.file_setNode hplace, if_neg hother, hprepared.file_eq, hmade.file_eq]

/-- **Frame.** A run of questions that tells a path has saved its answers there, and has changed no
    other file.  All other runs, whether or not they end with a collection, leave every file as it
    was.  Without a store, the files are not touched, and do not matter. -/
theorem collect_frame {name : String} {steps : List Signature.Step} {signature : Signature}
    (hbuild : Signature.build name steps = .ok signature) (hslash : '/' ∉ name.toList) (s : Setup)
    (overrides : Arguments) (σ : Session) :
    (∀ c τ path, (s.collect signature overrides).run σ = .ok c τ → c.savedTo = some path →
      ∃ n directory, s.Deposits signature c σ.files τ.files path n directory)
    ∧ (∀ c τ, (s.collect signature overrides).run σ = .ok c τ → c.savedTo = none →
      ∀ place, τ.files.file? place = σ.files.file? place)
    ∧ (∀ stop τ, (s.collect signature overrides).run σ = .error stop τ →
      ∀ place, τ.files.file? place = σ.files.file? place)
    ∧ (s.enableSaves = false → ∀ files' : FileTree,
      EndAlike (fun τ τ' => τ.files = σ.files ∧ τ' = { τ with files := files' })
        ((s.collect signature overrides).run σ)
        ((s.collect signature overrides).run { σ with files := files' })) := by
  obtain ⟨hwf, rfl⟩ := Signature.build_wellFormed hbuild
  have hwrites := s.collect_writes signature overrides σ
  refine ⟨?_, ?_, ?_, ?_⟩
  -- Saved: the file is in its place, and before it only directories were added.
  · intro c τ path hrun hpath
    rw [hrun] at hwrites
    obtain ⟨t, hmade, hkeeps⟩ := hwrites
    have hfaithful := collect_faithful hbuild s overrides hrun
    exact hkeeps.deposits hwf hslash hfaithful.once hpath hmade
  -- Not saved: the files are those of the last question.
  · intro c τ hrun hnone place
    rw [hrun] at hwrites
    obtain ⟨t, hmade, hkeeps⟩ := hwrites
    rw [Keeps, hnone] at hkeeps
    rw [show τ.files = t from hkeeps, hmade.file_eq]
  -- Stopped: nothing was deposited at all.
  · intro stop τ hrun place
    rw [hrun] at hwrites
    exact FileTree.AddsDirectories.file_eq hwrites place
  -- With saves off no question looks at the files, so two runs on different files go side by side.
  · intro hsaves files'
    have hparallel : Parallel ⟨[], σ.events, σ.events⟩ (Fixed σ.files files') (Fixed σ.files files')
        (s.collect signature overrides) := collect_parallel_unsaved hsaves signature overrides
    apply hparallel.endAlike rfl
    · rintro τ ⟨answers, files, events⟩ ⟨hanswers, ⟨hfiles, hother⟩, since, hevents, hevents'⟩
      dsimp only at hanswers hother hevents hevents'
      rw [hanswers, hother, hevents', ← hevents, List.append_nil]
      exact ⟨hfiles, rfl⟩
    · exact ⟨by simp, ⟨rfl, rfl⟩, [], by simp, by simp⟩

/-- After a name that is refused, the answers are saved beside another file. -/
theorem collect_frame_saved :
    ∃ signature c τ n directory,
      Signature.build "f" [.param "a" "str" none, .param "b" "int" (some (.int 2))] = .ok signature
      ∧ (Setup.collect ⟨[], ⟨0⟩, true, "."⟩ signature Arguments.empty).run
          ⟨["'x'", "", "True", "'m/n'", "'n'"], ⟨[(["n.f"], .file .empty 3)], 5⟩, []⟩ = .ok c τ
      ∧ c.savedTo = some "./f-saves/n.f"
      ∧ Deposits ⟨[], ⟨0⟩, true, "."⟩ signature c ⟨[(["n.f"], .file .empty 3)], 5⟩ τ.files
          "./f-saves/n.f" n directory := by
  obtain ⟨signature, hsignature⟩ : ∃ signature : Signature, signature = ⟨"f", none,
      [⟨"a", .str, none, none⟩, ⟨"b", .int, some (.int 2), none⟩]⟩ := ⟨_, rfl⟩
  have hbuild : Signature.build "f" [.param "a" "str" none, .param "b" "int" (some (.int 2))]
      = .ok signature := by
    rw [hsignature]
    rfl
  obtain ⟨c, τ, hrun, hsaved⟩ : ∃ c τ,
      (Setup.collect ⟨[], ⟨0⟩, true, "."⟩ signature Arguments.empty).run
        ⟨["'x'", "", "True", "'m/n'", "'n'"], ⟨[(["n.f"], .file .empty 3)], 5⟩, []⟩ = .ok c τ
      ∧ c.savedTo = some "./f-saves/n.f" := by
    rw [hsignature]
    exact ⟨_, _, rfl, rfl⟩
  obtain ⟨hdeposits, -⟩ := collect_frame hbuild (by decide) ⟨[], ⟨0⟩, true, "."⟩ Arguments.empty
    ⟨["'x'", "", "True", "'m/n'", "'n'"], ⟨[(["n.f"], .file .empty 3)], 5⟩, []⟩
  obtain ⟨n, directory, hdeposit⟩ := hdeposits c τ _ hrun hsaved
  exact ⟨signature, c, τ, n, directory, hbuild, hrun, hsaved, hdeposit⟩

end Setup

end Questionnaire
