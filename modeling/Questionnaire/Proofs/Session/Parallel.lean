import Questionnaire.Proofs.Session.Parts

namespace Questionnaire

/-!
# Parallel sessions

A session does not know what has happened before it, what else could be answered after its end,
and what is in files that it does not read.  Two sessions that differ only in this go on alike.

* `Session.Link` — how two sessions may differ; `Link.Joins` is the relation between them.
* `Dialogue.Parallel` — a part of a session that gives the same in both, and keeps the relation.
* `Setup.collect_parallel` — a run of questions is such a part, if the files that it reads and
  writes look the same.
-/

/-! ### Pairs of sessions -/

/-- How a second session may differ from a first one, apart from the files. -/
structure Session.Link where
  /-- The answers that the second one has in addition. -/
  more : List String
  /-- What happened in the first one beforehand. -/
  past : List Event
  /-- What happened in the second one beforehand. -/
  past' : List Event

namespace Session.Link

/-- Two sessions to which the same has happened since they went on together.  Their files are as
    `view` tells. -/
structure Joins (l : Link) (view : FileTree → FileTree → Prop) (σ σ' : Session) : Prop where
  answers : σ'.answers = σ.answers ++ l.more
  files : view σ.files σ'.files
  events : ∃ since, σ.events = l.past ++ since ∧ σ'.events = l.past' ++ since

/-- Two ways to end that are the same.  Where the first session lacks an answer, the second one
    has to lack it only if it has none in addition. -/
def Same {α : Type} (l : Link) (view : FileTree → FileTree → Prop) :
    EStateM.Result Stop Session α → EStateM.Result Stop Session α → Prop
  | .ok a τ, r => ∃ τ', r = .ok a τ' ∧ l.Joins view τ τ'
  | .error stop τ, r => l.more = [] → ∃ τ', r = .error stop τ' ∧ l.Joins view τ τ'

variable {α : Type} {l : Link} {view view' : FileTree → FileTree → Prop}

/-- Sessions stay joined when both note the same event. -/
theorem Joins.note {σ σ' : Session} (h : l.Joins view σ σ') (e : Event) :
    l.Joins view (σ.note e) (σ'.note e) := by
  obtain ⟨since, hevents, hevents'⟩ := h.events
  refine ⟨h.answers, h.files, since ++ [e], ?_, ?_⟩
  · simp [Session.note, hevents]
  · simp [Session.note, hevents']

/-- Files that look the same in one way do so in a coarser one. -/
theorem Joins.weaken {σ σ' : Session} (h : l.Joins view σ σ')
    (hview : ∀ t t', view t t' → view' t t') : l.Joins view' σ σ' :=
  ⟨h.answers, hview _ _ h.files, h.events⟩

end Session.Link

/-! ### Parallel parts -/

namespace Dialogue

open Session (Link)

variable {α β : Type} {l : Link} {view view' : FileTree → FileTree → Prop}

/-- From two sessions that are joined, a part gives the same and leaves sessions that are joined. -/
def Parallel (l : Link) (view view' : FileTree → FileTree → Prop) (x : Dialogue α) : Prop :=
  ∀ σ σ', l.Joins view σ σ' → l.Same view' (x.run σ) (x.run σ')

/-- Doing nothing is parallel. -/
theorem Parallel.pure (a : α) : Parallel l view view (pure a) := by
  intro σ σ' h
  exact ⟨σ', rfl, h⟩

/-- One part after the other is parallel if both are. -/
theorem Parallel.bind {x : Dialogue α} {f : α → Dialogue β} (hx : Parallel l view view' x)
    (hf : ∀ a, Parallel l view' view' (f a)) : Parallel l view view' (x >>= f) := by
  intro σ σ' h
  have hfirst := hx σ σ' h
  rw [EStateM.run_bind, EStateM.run_bind]
  -- Whether the first part ends is the same on both sides, so the second part starts on both or on
  -- none.
  cases hrun : x.run σ with
  | ok a ρ =>
    rw [hrun] at hfirst
    obtain ⟨ρ', hrun', hρ⟩ := hfirst
    rw [hrun']
    exact hf a ρ ρ' hρ
  | error stop τ =>
    intro hmore
    rw [hrun] at hfirst
    obtain ⟨τ', hrun', hτ⟩ := hfirst hmore
    exact ⟨τ', by rw [hrun'], hτ⟩

/-- What a part gives may be changed. -/
theorem Parallel.map {x : Dialogue α} (hx : Parallel l view view' x) (f : α → β) :
    Parallel l view view' (f <$> x) := by
  rw [map_eq_pure_bind]
  exact hx.bind fun a => .pure (f a)

/-- Noting an event is parallel. -/
theorem Parallel.note (e : Event) : Parallel l view view (Dialogue.note e) := by
  intro σ σ' h
  exact ⟨σ'.note e, rfl, h.note e⟩

/-- Breaking off is parallel. -/
theorem Parallel.crash : Parallel l view view (throw .crashed : Dialogue α) := by
  intro σ σ' h _
  exact ⟨σ', rfl, h⟩

/-- Reading the files is no difference if what follows does not depend on how they differ. -/
theorem Parallel.files {f : FileTree → Dialogue α} (hsame : ∀ t t', view t t' → f t = f t')
    (hf : ∀ t, Parallel l view view' (f t)) : Parallel l view view' (Dialogue.files >>= f) := by
  intro σ σ' h
  show l.Same view' ((f σ.files).run σ) ((f σ'.files).run σ')
  rw [hsame _ _ h.files]
  exact hf _ σ σ' h

/-- Files may look the same in a coarser way afterwards. -/
theorem Parallel.weaken {x : Dialogue α} (hx : Parallel l view view x)
    (hview : ∀ t t', view t t' → view' t t') : Parallel l view view' x := by
  intro σ σ' h
  have hsame := hx σ σ' h
  cases hrun : x.run σ with
  | ok a τ =>
    rw [hrun] at hsame
    obtain ⟨τ', hrun', hτ⟩ := hsame
    exact ⟨τ', hrun', hτ.weaken hview⟩
  | error stop τ =>
    intro hmore
    rw [hrun] at hsame
    obtain ⟨τ', hrun', hτ⟩ := hsame hmore
    exact ⟨τ', hrun', hτ.weaken hview⟩

/-- Two ways to end that are the same, in sessions that are related. -/
def EndAlike (rel : Session → Session → Prop) :
    EStateM.Result Stop Session α → EStateM.Result Stop Session α → Prop
  | .ok a τ, .ok a' τ' => a' = a ∧ rel τ τ'
  | .error stop τ, .error stop' τ' => stop' = stop ∧ rel τ τ'
  | _, _ => False

/-- If the second session has no answers in addition, the part ends alike in both. -/
theorem Parallel.endAlike {x : Dialogue α} (hx : Parallel l view view' x) (hmore : l.more = [])
    {rel : Session → Session → Prop} (hrel : ∀ τ τ', l.Joins view' τ τ' → rel τ τ')
    {σ σ' : Session} (h : l.Joins view σ σ') : EndAlike rel (x.run σ) (x.run σ') := by
  have hsame := hx σ σ' h
  cases hrun : x.run σ with
  | ok a τ =>
    rw [hrun] at hsame
    obtain ⟨τ', hrun', hτ⟩ := hsame
    rw [hrun']
    exact ⟨rfl, hrel τ τ' hτ⟩
  | error stop τ =>
    rw [hrun] at hsame
    obtain ⟨τ', hrun', hτ⟩ := hsame hmore
    rw [hrun']
    exact ⟨rfl, hrel τ τ' hτ⟩

/-- A part that does the same in all sessions that are joined does not look at answers beyond those
    that it needs. -/
theorem Parallel.unread {x : Dialogue α} (hx : ∀ l, Parallel l Eq Eq x) {a : α} {σ τ : Session}
    (h : x.run σ = .ok a τ) (more : List String) :
    x.run { σ with answers := σ.answers ++ more }
      = .ok a { τ with answers := τ.answers ++ more } := by
  have hsame := hx ⟨more, σ.events, σ.events⟩ σ { σ with answers := σ.answers ++ more }
    ⟨rfl, rfl, [], by simp, by simp⟩
  rw [h] at hsame
  obtain ⟨⟨answers, files, events⟩, hrun, hanswers, hfiles, since, hevents, hevents'⟩ := hsame
  dsimp only at hanswers hfiles hevents hevents'
  rw [hrun, hanswers, ← hfiles, hevents', ← hevents]

/-- A question is put in both sessions as often as in the first one. -/
theorem Parallel.put {q : Question} {judge : FileTree → String → Judgment α × FileTree}
    (hjudge : ∀ t t' answer, view t t' → (judge t answer).1 = (judge t' answer).1
      ∧ view (judge t answer).2 (judge t' answer).2) :
    Parallel l view view (Dialogue.put q judge) := by
  have hput (answers : List String) (t t' : FileTree) (since : List Event) (hfiles : view t t') :
      l.Same view (putTo q judge t (l.past ++ since) answers)
        (putTo q judge t' (l.past' ++ since) (answers ++ l.more)) := by
    induction answers generalizing t t' since with
    | nil =>
      intro hmore
      rw [hmore]
      exact ⟨_, rfl, by simp [hmore], hfiles, since ++ [.asked q], by simp, by simp⟩
    | cons answer rest ih =>
      obtain ⟨hsame, hfiles'⟩ := hjudge t t' answer hfiles
      have hjoins (events : List Event) : l.Joins view
          ⟨rest, (judge t answer).2, l.past ++ since ++ events⟩
          ⟨rest ++ l.more, (judge t' answer).2, l.past' ++ since ++ events⟩ :=
        ⟨rfl, hfiles', since ++ events, by simp, by simp⟩
      rw [List.cons_append, putTo, putTo]
      -- The judgments are the same, so the second session goes the way of the first one.
      cases hj : judge t answer with
      | mk j files =>
        cases hj' : judge t' answer with
        | mk j' files' =>
          rw [hj, hj'] at hsame hfiles' hjoins
          obtain rfl : j = j' := hsame
          cases j with
          | accepted a => exact ⟨_, rfl, hjoins _⟩
          | refused report => simpa using ih files files' (since ++ _) hfiles'
          | crashed => exact fun _ => ⟨_, rfl, hjoins _⟩
  intro σ σ' h
  obtain ⟨since, hevents, hevents'⟩ := h.events
  show l.Same view (putTo q judge σ.files σ.events σ.answers)
    (putTo q judge σ'.files σ'.events σ'.answers)
  rw [hevents, hevents', h.answers]
  exact hput σ.answers σ.files σ'.files since h.files

end Dialogue

/-! ### Parts of a run of questions -/

namespace Setup

open Dialogue (Parallel)
open Session (Link)

variable {s : Setup} {l : Link} {view view' : FileTree → FileTree → Prop}

/-- A question does not look at the files. -/
theorem ask_parallel (q : Question) : Parallel l view view (s.ask q) :=
  .put fun _ _ _ h => ⟨rfl, h⟩

/-- A decision does not look at the files. -/
theorem confirm_parallel (q : Question) : Parallel l view view (s.confirm q) :=
  (ask_parallel q).bind fun _ => .pure _

/-- What restoring reads of the files looks the same. -/
structure ReadsSame (s : Setup) (signature : Signature) (overrides : Arguments)
    (view : FileTree → FileTree → Prop) : Prop where
  list : ∀ t t', view t t' → (s.store signature).list t = (s.store signature).list t'
  isFile : ∀ t t', view t t' → ∀ name,
    t.isFile ((s.store signature).pathFor name) = t'.isFile ((s.store signature).pathFor name)
  load : ∀ t t', view t t' → ∀ name, s.load signature overrides (s.store signature) t name
    = s.load signature overrides (s.store signature) t' name

/-- Saving reports the same and leaves files that look the same. -/
structure SavesSame (s : Setup) (signature : Signature) (view : FileTree → FileTree → Prop) :
    Prop where
  result : ∀ t t', view t t' → ∀ name saved,
    ((s.store signature).save t name saved).1 = ((s.store signature).save t' name saved).1
  files : ∀ t t', view t t' → ∀ name saved,
    view ((s.store signature).save t name saved).2 ((s.store signature).save t' name saved).2

/-- What restoring reads looks the same in files that are the same. -/
theorem ReadsSame.eq (s : Setup) (signature : Signature) (overrides : Arguments) :
    s.ReadsSame signature overrides Eq := by
  constructor
  all_goals
    rintro t _ rfl
    simp

/-- Saving does the same with files that are the same. -/
theorem SavesSame.eq (s : Setup) (signature : Signature) : s.SavesSame signature Eq := by
  constructor
  all_goals
    rintro t _ rfl
    simp

/-- Loading looks at the files only in ways in which they look the same. -/
theorem tryLoad_parallel {signature : Signature} {overrides : Arguments}
    (h : s.ReadsSame signature overrides view) (name : String) :
    Parallel l view view (s.tryLoad signature overrides name) := by
  apply Parallel.files
  · intro t t' hview
    rw [h.load t t' hview name]
  · intro t
    split
    · exact .pure _
    · split
      · exact .crash
      · exact (Parallel.note _).bind fun _ => .pure _

/-- Restoring lists configurations, asks, and loads: in none of these do the sessions differ. -/
theorem restore_parallel {signature : Signature} {overrides : Arguments}
    (h : s.ReadsSame signature overrides view) :
    Parallel l view view (s.restore signature overrides) := by
  -- Both look at the files for the names first; these are the same by assumption.
  apply Parallel.files
  · intro t t' hview
    rw [h.list t t' hview]
  · intro t
    split
    · exact .pure _
    · apply (confirm_parallel _).bind
      intro yes
      split
      · refine Parallel.bind (.put fun u u' answer hview => ⟨?_, hview⟩)
          (tryLoad_parallel h)
        simp only [judgeSavedName, h.isFile u u' hview]
      · exact .pure _

/-- One parameter is taken from what has been restored, or asked for. -/
theorem collectOne_parallel (function : String) (restored : List (String × Given)) (p : Parameter) :
    Parallel l view view (s.collectOne function restored p) := by
  unfold collectOne
  split
  · exact .pure _
  · split
    · exact .pure _
    · exact (ask_parallel _).map some

/-- All parameters are taken from what has been restored, or asked for, one after the other. -/
theorem collectFrom_parallel (function : String) (overrides : Arguments)
    (restored : List (String × Given)) (params : List Parameter) (c : Collection) :
    Parallel l view view (s.collectFrom function overrides restored params c) := by
  induction params generalizing c with
  | nil => exact .pure c
  | cons p params ih =>
    rw [collectFrom]
    split
    · exact ih c
    · apply (collectOne_parallel function restored p).bind
      intro given
      cases given with
      | none => exact ih c
      | some given => exact ih (c.add p.name given)

/-- What becomes of a new name depends on the files only as far as saving does. -/
theorem judgeNewName_same {signature : Signature} (h : s.SavesSame signature view) (saved : Saved)
    (q : Question) {t t' : FileTree} (hview : view t t') (answer : String) :
    (s.judgeNewName (s.store signature) saved q t answer).1
        = (s.judgeNewName (s.store signature) saved q t' answer).1
      ∧ view (s.judgeNewName (s.store signature) saved q t answer).2
        (s.judgeNewName (s.store signature) saved q t' answer).2 := by
  unfold judgeNewName
  split
  · rename_i name _
    have hresult := h.result t t' hview name saved
    have hfiles := h.files t t' hview name saved
    -- The two writings are named, as their results agree while their files are only related.
    generalize (s.store signature).save t name saved = first at hresult hfiles ⊢
    generalize (s.store signature).save t' name saved = second at hresult hfiles ⊢
    obtain ⟨result, files⟩ := first
    obtain ⟨result', files'⟩ := second
    obtain rfl : result = result' := hresult
    cases result <;> exact ⟨rfl, hfiles⟩
  · exact ⟨rfl, hview⟩
  · exact ⟨rfl, hview⟩

/-- Saving asks, and writes in ways that look the same. -/
theorem save_parallel {signature : Signature} (h : s.SavesSame signature view) (c : Collection) :
    Parallel l view view (s.save signature c) := by
  apply (confirm_parallel _).bind
  intro yes
  split
  · exact (Parallel.put fun _ _ answer hview => judgeNewName_same h _ _ hview answer).map some
  · exact .pure _

/-- What comes after restoring collects and saves. -/
theorem collectRest_parallel {signature : Signature} (overrides : Arguments)
    (h : s.SavesSame signature view) (restored : List (String × Given) × Option String) :
    Parallel l view view (s.collectRest signature overrides restored) := by
  apply (collectFrom_parallel _ _ _ _ _).bind
  intro c
  split
  · exact (save_parallel h c).bind fun _ => .pure _
  · exact .pure _

/-- **Parallel runs.** A run of questions goes the same way from two sessions that are joined, if
    what it reads of the files looks the same, and so does what it writes. -/
theorem collect_parallel {signature : Signature} {overrides : Arguments}
    (hreads : s.ReadsSame signature overrides view) (hsaves : s.SavesSame signature view')
    (hview : ∀ t t', view t t' → view' t t') :
    Parallel l view view' (s.collect signature overrides) := by
  rw [collect_eq]
  have hrestore : Parallel l view view
      (if s.enableSaves then s.restore signature overrides else pure ([], none)) := by
    split
    · exact restore_parallel hreads
    · exact .pure _
  exact (hrestore.weaken hview).bind (collectRest_parallel overrides hsaves)

end Setup

end Questionnaire
