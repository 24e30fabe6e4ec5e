import Questionnaire.Proofs.Session.Dialogue

namespace Questionnaire

/-!
# Exchanges

A question is put until an answer to it is accepted.  What happens on the way can be told from the
answers alone, and a session as a whole is a row of exchanges, each a question with its answer.

* `Dialogue.Puts` — the answers that a question gets, up to the accepted one.
* `Dialogue.put_run_eq_ok` — a question ends well with just these.
* `Session.Exchanges` — what is asked and answered from one session to another.
* `Dialogue.Accounts` — a part of a session in which every question takes one answer.
-/

variable {α β : Type}

/-! ### Answers to a question -/

namespace Dialogue

/-- The answers that a question gets, from the files at its beginning to those at its end: some are
    refused, and the last one is accepted.  The events tell the same. -/
inductive Puts (q : Question) (judge : FileTree → String → Judgment α × FileTree) :
    FileTree → List String → List Event → α → FileTree → Prop
  | accepted {files files' : FileTree} {answer : String} {a : α}
      (h : judge files answer = (.accepted a, files')) :
      Puts q judge files [answer] [.asked q, .answered] a files'
  | refused {files files' files'' : FileTree} {answer : String} {report : Report}
      {answers : List String} {events : List Event} {a : α}
      (h : judge files answer = (.refused report, files'))
      (rest : Puts q judge files' answers events a files'') :
      Puts q judge files (answer :: answers) ([.asked q, .answered, .reported report] ++ events)
        a files''

variable {q : Question} {judge : FileTree → String → Judgment α × FileTree} {a : α}

/-- A question that has been put in this way goes on with whatever answers are left. -/
theorem Puts.run {files files' : FileTree} {answers : List String} {events : List Event}
    (h : Puts q judge files answers events a files') (before : List Event) (rest : List String) :
    putTo q judge files before (answers ++ rest) = .ok a ⟨rest, files', before ++ events⟩ := by
  induction h generalizing before with
  | accepted hjudge => simp [putTo, hjudge]
  | refused hjudge _ ih => simp [putTo, hjudge, ih]

/-- A question ends well with the answers up to the first accepted one. -/
theorem put_run_eq_ok {σ τ : Session} :
    (put q judge).run σ = .ok a τ ↔ ∃ answers events, Puts q judge σ.files answers events a τ.files
      ∧ σ.answers = answers ++ τ.answers ∧ τ.events = σ.events ++ events := by
  constructor
  · have hput (answers : List String) (files : FileTree) (before : List Event)
        (hrun : putTo q judge files before answers = .ok a τ) :
        ∃ used events, Puts q judge files used events a τ.files
          ∧ answers = used ++ τ.answers ∧ τ.events = before ++ events := by
      -- Every refused answer leaves other files and more events to the next round.
      induction answers generalizing files before with
      | nil => cases hrun
      | cons answer rest ih =>
        rw [putTo] at hrun
        split at hrun
        · rename_i hjudge
          cases hrun
          exact ⟨[answer], _, .accepted hjudge, rfl, rfl⟩
        · rename_i report files' hjudge
          obtain ⟨used, events, hputs, rfl, hevents⟩ := ih _ _ hrun
          exact ⟨answer :: used, _, .refused hjudge hputs, rfl, by simpa using hevents⟩
        · cases hrun
    exact hput _ _ _
  · rintro ⟨answers, events, hputs, hanswers, hevents⟩
    obtain ⟨rest, files, past⟩ := τ
    obtain rfl : past = σ.events ++ events := hevents
    show putTo q judge σ.files σ.events σ.answers = _
    rw [hanswers]
    exact hputs.run σ.events rest

/-- A question that leaves files alone. -/
theorem Puts.files_eq {judge : FileTree → String → Judgment α} {files files' : FileTree}
    {answers : List String} {events : List Event}
    (h : Puts q (fun files answer => (judge files answer, files)) files answers events a files') :
    files' = files := by
  induction h with
  | accepted h => exact (Prod.mk.inj h).2.symm
  | refused h _ ih => exact ih.trans (Prod.mk.inj h).2.symm

end Dialogue

/-! ### Rows of exchanges -/

/-- A question with the answer that it gets. -/
structure Exchange where
  question : Question
  answer : String

namespace Session

/-- From one session to another, questions have been put and each has taken one answer. -/
structure Exchanges (σ τ : Session) (es : List Exchange) : Prop where
  answers : σ.answers = es.map (·.answer) ++ τ.answers
  questions : τ.questions = σ.questions ++ es.map (·.question)

/-- Nothing has been exchanged yet. -/
theorem Exchanges.refl (σ : Session) : σ.Exchanges σ [] := ⟨rfl, by simp⟩

/-- What has been exchanged in two parts is exchanged in both together. -/
theorem Exchanges.trans {σ ρ τ : Session} {es es' : List Exchange} (h : σ.Exchanges ρ es)
    (h' : ρ.Exchanges τ es') : σ.Exchanges τ (es ++ es') where
  answers := by rw [h.answers, h'.answers, List.map_append, List.append_assoc]
  questions := by rw [h'.questions, h.questions, List.map_append, List.append_assoc]

/-- The questions among events. -/
def questionsIn (events : List Event) : List Question := questions ⟨[], FileTree.empty, events⟩

/-- The questions among events in a row are those of both. -/
theorem questionsIn_append (events more : List Event) :
    questionsIn (events ++ more) = questionsIn events ++ questionsIn more :=
  List.filterMap_append

/-- The questions of a session grow with its events. -/
theorem questions_append (σ : Session) {τ : Session} {events : List Event}
    (h : τ.events = σ.events ++ events) : τ.questions = σ.questions ++ questionsIn events := by
  rw [questions, h]
  exact List.filterMap_append

/-- A question that is asked is the last one. -/
theorem questions_asked (σ : Session) (q : Question) :
    (σ.note (.asked q)).questions = σ.questions ++ [q] :=
  questions_append σ (τ := σ.note (.asked q)) rfl

/-- A report is no exchange. -/
theorem Exchanges.reported (σ : Session) (report : Report) :
    σ.Exchanges (σ.note (.reported report)) [] :=
  ⟨rfl, questions_append σ (τ := σ.note (.reported report)) rfl⟩

end Session

/-- The answers to a question are exchanges about it. -/
theorem Dialogue.Puts.questions {q : Question} {judge : FileTree → String → Judgment α × FileTree}
    {files files' : FileTree} {answers : List String} {events : List Event} {a : α}
    (h : Puts q judge files answers events a files') :
    Session.questionsIn events = answers.map fun _ => q := by
  induction h with
  | accepted => rfl
  | refused _ _ ih => exact congrArg (q :: ·) ih

/-- A question that ends well is one row of exchanges. -/
theorem Dialogue.Puts.exchanges {q : Question} {judge : FileTree → String → Judgment α × FileTree}
    {files files' : FileTree} {answers : List String} {events : List Event} {a : α}
    {σ τ : Session} (h : Puts q judge files answers events a files')
    (hanswers : σ.answers = answers ++ τ.answers) (hevents : τ.events = σ.events ++ events) :
    σ.Exchanges τ (answers.map (⟨q, ·⟩)) where
  answers := by simp [hanswers, Function.comp_def]
  questions := by
    rw [Session.questions_append σ hevents, h.questions]
    simp [Function.comp_def]

/-! ### Accounts -/

namespace Dialogue

/-- How a part of a session may end.  Every question takes one answer, except that it stops at a
    question which is put when all answers have been used.  It breaks off only where an answer
    makes it, or something in the files does that is to `blame`. -/
def Ends (breaks : String → Prop) (blame : FileTree → Prop) (σ : Session) :
    EStateM.Result Stop Session α → Prop
  | .ok _ τ => ∃ es, σ.Exchanges τ es
  | .error (.unanswered q) τ =>
    ∃ ρ es, σ.Exchanges ρ es ∧ ρ.answers = [] ∧ τ = ρ.note (.asked q)
  | .error .crashed _ => blame σ.files ∨ ∃ answer ∈ σ.answers, breaks answer

/-- What comes after a row of exchanges ends as the whole does. -/
theorem Ends.after {breaks : String → Prop} {blame blame' : FileTree → Prop} {σ ρ : Session}
    {es : List Exchange} {r : EStateM.Result Stop Session α} (hes : σ.Exchanges ρ es)
    (hblame : blame' ρ.files → blame σ.files) (h : Ends breaks blame' ρ r) :
    Ends breaks blame σ r := by
  -- What has been exchanged before is put in front; an answer that is blamed stays among the
  -- answers.
  cases r with
  | ok a τ =>
    obtain ⟨es', hes'⟩ := h
    exact ⟨es ++ es', hes.trans hes'⟩
  | error stop τ =>
    cases stop with
    | unanswered q =>
      obtain ⟨ρ', es', hes', hnone, hτ⟩ := h
      exact ⟨ρ', es ++ es', hes.trans hes', hnone, hτ⟩
    | crashed =>
      rcases h with hblamed | ⟨answer, hmem, hbreaks⟩
      · exact Or.inl (hblame hblamed)
      · refine Or.inr ⟨answer, ?_, hbreaks⟩
        rw [hes.answers]
        exact List.mem_append_right _ hmem

/-- Wherever it starts, a part of a session ends in one of these ways. -/
def Accounts (breaks : String → Prop) (blame : FileTree → Prop) (x : Dialogue α) : Prop :=
  ∀ σ, Ends breaks blame σ (x.run σ)

variable {breaks : String → Prop} {blame : FileTree → Prop}

/-- From a session, a second part goes on where a first one has ended. -/
theorem Ends.bind {x : Dialogue α} {f : α → Dialogue β} {blame' : α → FileTree → Prop} {σ : Session}
    (hx : Ends breaks blame σ (x.run σ)) (hf : ∀ a, Accounts breaks (blame' a) (f a))
    (hblame : ∀ a ρ, x.run σ = .ok a ρ → blame' a ρ.files → blame σ.files) :
    Ends breaks blame σ ((x >>= f).run σ) := by
  rw [EStateM.run_bind]
  cases hrun : x.run σ with
  | ok a ρ =>
    rw [hrun] at hx
    obtain ⟨es, hes⟩ := hx
    exact (hf a ρ).after hes (hblame a ρ hrun)
  | error stop τ =>
    -- a part that has stopped leaves out the rest
    rw [hrun] at hx
    cases stop <;> exact hx

/-- A part that does nothing uses no answers. -/
theorem Accounts.pure (a : α) : Accounts breaks blame (pure a) := by
  intro σ
  exact ⟨[], Session.Exchanges.refl σ⟩

/-- What is to blame in the second part must have been so before the first one. -/
theorem Accounts.bind_blaming {x : Dialogue α} {f : α → Dialogue β}
    {blame' : α → FileTree → Prop} (hx : Accounts breaks blame x)
    (hf : ∀ a, Accounts breaks (blame' a) (f a))
    (hblame : ∀ σ a ρ, x.run σ = .ok a ρ → blame' a ρ.files → blame σ.files) :
    Accounts breaks blame (x >>= f) :=
  fun σ => (hx σ).bind hf (hblame σ)

/-- What is to blame stays where the first part leaves the files alone. -/
theorem Accounts.bind_keeping {x : Dialogue α} {f : α → Dialogue β} (hx : Accounts breaks blame x)
    (hkeeps : ∀ σ a ρ, x.run σ = .ok a ρ → ρ.files = σ.files)
    (hf : ∀ a, Accounts breaks blame (f a)) : Accounts breaks blame (x >>= f) :=
  hx.bind_blaming hf fun σ a ρ hrun hblame => hkeeps σ a ρ hrun ▸ hblame

/-- One part after the other accounts for its answers if both do, and the second one blames nothing
    on the files. -/
theorem Accounts.bind {x : Dialogue α} {f : α → Dialogue β} (hx : Accounts breaks blame x)
    (hf : ∀ a, Accounts breaks (fun _ => False) (f a)) : Accounts breaks blame (x >>= f) :=
  hx.bind_blaming hf fun _ _ _ _ => False.elim

/-- What a part gives may be changed. -/
theorem Accounts.map {x : Dialogue α} (hx : Accounts breaks blame x) (f : α → β) :
    Accounts breaks blame (f <$> x) := by
  rw [map_eq_pure_bind]
  exact hx.bind fun a => .pure (f a)

/-- What blames nothing on the files blames them for no more than is allowed. -/
theorem Accounts.weaken {x : Dialogue α} (hx : Accounts breaks (fun _ => False) x) :
    Accounts breaks blame x :=
  fun σ => (hx σ).after (Session.Exchanges.refl σ) False.elim

/-- A question breaks the session off only where judging an answer does. -/
theorem Accounts.put {q : Question} {judge : FileTree → String → Judgment α × FileTree}
    (h : ∀ files answer, (judge files answer).1 = .crashed → breaks answer) :
    Accounts breaks blame (Dialogue.put q judge) := by
  have hput (answers : List String) (files : FileTree) (before : List Event) :
      Ends breaks (fun _ => False) ⟨answers, files, before⟩
        (putTo q judge files before answers) := by
    induction answers generalizing files before with
    | nil => exact ⟨_, [], Session.Exchanges.refl _, rfl, rfl⟩
    | cons answer rest ih =>
      -- one exchange, whatever the judgment is
      have hone (files' : FileTree) (events : List Event)
          (hevents : Session.questionsIn events = [q]) :
          Session.Exchanges ⟨answer :: rest, files, before⟩ ⟨rest, files', before ++ events⟩
            [⟨q, answer⟩] :=
        ⟨rfl, by rw [Session.questions_append ⟨answer :: rest, files, before⟩ rfl, hevents]; rfl⟩
      have hjudge := h files answer
      rw [putTo]
      split
      · rename_i a files' _
        exact ⟨_, hone files' _ rfl⟩
      · rename_i report files' _
        rw [List.append_assoc]
        exact (ih files' _).after (hone files' _ rfl) id
      · rename_i files' hcrashed
        rw [hcrashed] at hjudge
        exact Or.inr ⟨answer, List.mem_cons_self, hjudge rfl⟩
  exact Accounts.weaken fun σ => hput σ.answers σ.files σ.events

end Dialogue

end Questionnaire
