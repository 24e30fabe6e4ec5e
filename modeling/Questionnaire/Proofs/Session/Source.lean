import Questionnaire.Proofs.Session.Ending
import Questionnaire.Proofs.Session.Modular
import Questionnaire.Proofs.Text.Lines
import Questionnaire.Session.Source

namespace Questionnaire

/-!
# Scripts and terminals

The same text can be entered on a terminal or be read as a script.  The two drop different ends of
lines, but a session does not look at the blanks around an answer.

* `Dialogue.IgnoresBlanks` — a part of a session that does not look at blanks around answers.
* `Setup.collect_ignoresBlanks` — a run of questions is such a part.
* `Source.ofTerminal_toUTF8` — the lines that are entered are those of the text.
* `Terminal.prompt_answer`, `Terminal.prompt_none` — a terminal gives one of them for each question.
* `Setup.collect_alike` — a run of questions goes the same way with a script and on a terminal.
-/

open Questionnaire.Text (trim trimmed trimmed_trimmed pieces withoutEnd withoutBreaks)

variable {α β : Type}

/-! ### Blanks around answers -/

/-- The session with no blanks around the answers to come. -/
def Session.tidied (σ : Session) : Session := { σ with answers := σ.answers.map trimmed }

namespace Dialogue

/-- The way to end with no blanks around the answers that are left. -/
def tidiedEnd : EStateM.Result Stop Session α → EStateM.Result Stop Session α
  | .ok a τ => .ok a τ.tidied
  | .error stop τ => .error stop τ.tidied

/-- Without the blanks around answers, a part of a session goes the same way. -/
def IgnoresBlanks (x : Dialogue α) : Prop := ∀ σ, x.run σ.tidied = tidiedEnd (x.run σ)

/-- One part after the other ignores blanks if both do. -/
theorem IgnoresBlanks.bind {x : Dialogue α} {f : α → Dialogue β} (hx : IgnoresBlanks x)
    (hf : ∀ a, IgnoresBlanks (f a)) : IgnoresBlanks (x >>= f) := by
  intro σ
  rw [EStateM.run_bind, EStateM.run_bind, hx σ]
  cases x.run σ with
  | ok a ρ => exact hf a ρ
  | error stop τ => rfl

/-- Ignoring blanks can be told part by part. -/
theorem ignoresBlanks_modular : IsModular fun _ x => IgnoresBlanks x where
  pure _ _ := rfl
  bind := IgnoresBlanks.bind
  files _ := rfl
  crash _ := rfl
  reported _ _ := rfl

/-- A question ignores blanks if answers are judged without them. -/
theorem IgnoresBlanks.put {q : Question} {judge : FileTree → String → Judgment α × FileTree}
    (h : ∀ files answer, judge files (trimmed answer) = judge files answer) :
    IgnoresBlanks (Dialogue.put q judge) := by
  have hput (answers : List String) (files : FileTree) (events : List Event) :
      putTo q judge files events (answers.map trimmed)
        = tidiedEnd (putTo q judge files events answers) := by
    induction answers generalizing files events with
    | nil => rfl
    | cons answer rest ih =>
      rw [List.map_cons, putTo, putTo, h]
      split
      · rfl
      · exact ih _ _
      · rfl
  exact fun σ => hput σ.answers σ.files σ.events

/-- From sessions that differ in blanks around answers only, a part that ignores them ends alike. -/
theorem IgnoresBlanks.endAlike {x : Dialogue α} (hx : IgnoresBlanks x)
    {rel : Session → Session → Prop} (hrel : ∀ τ τ', τ.tidied = τ'.tidied → rel τ τ')
    {σ σ' : Session} (h : σ.tidied = σ'.tidied) : EndAlike rel (x.run σ) (x.run σ') := by
  -- Both runs are compared with the run on the trimmed answers.
  have hsame : tidiedEnd (x.run σ) = tidiedEnd (x.run σ') := by rw [← hx σ, h, hx σ']
  cases hrun : x.run σ with
  | ok a τ =>
    cases hrun' : x.run σ' with
    | ok a' τ' =>
      rw [hrun, hrun'] at hsame
      obtain ⟨rfl, hτ⟩ := EStateM.Result.ok.inj hsame
      exact ⟨rfl, hrel τ τ' hτ⟩
    | error stop' τ' =>
      rw [hrun, hrun'] at hsame
      cases hsame
  | error stop τ =>
    cases hrun' : x.run σ' with
    | ok a' τ' =>
      rw [hrun, hrun'] at hsame
      cases hsame
    | error stop' τ' =>
      rw [hrun, hrun'] at hsame
      obtain ⟨rfl, hτ⟩ := EStateM.Result.error.inj hsame
      exact ⟨rfl, hrel τ τ' hτ⟩

end Dialogue

namespace Setup

open Dialogue (IgnoresBlanks)

variable {s : Setup}

/-- Blanks around an answer do not matter to what is read in it. -/
theorem read_trimmed (q : Question) (answer : String) :
    s.read q (trimmed answer) = s.read q answer := by
  rw [read, read, trimmed_trimmed]

/-- Blanks around an answer do not matter to its judgment. -/
theorem judge_trimmed (q : Question) (answer : String) :
    s.judge q (trimmed answer) = s.judge q answer := by
  rw [judge, judge, read_trimmed]

/-- Blanks around an answer do not matter to the name that is read in it. -/
theorem readName_trimmed (q : Question) (answer : String) :
    s.readName q (trimmed answer) = s.readName q answer := by
  rw [readName, readName, read_trimmed]

/-- No question looks at blanks around answers. -/
theorem holdsOfQuestions_ignoresBlanks (s : Setup) (signature : Signature)
    (overrides : Arguments) :
    s.HoldsOfQuestions (fun _ x => IgnoresBlanks x) signature overrides := by
  have hask (q : Question) : IgnoresBlanks (s.ask q) :=
    .put fun files answer => by rw [judge_trimmed]
  constructor
  case session => exact fun q _ => hask q
  case parameter => exact fun p _ _ _ => hask _
  case savedName =>
    intro names q _
    exact .put fun files answer => by rw [judgeSavedName, judgeSavedName, readName_trimmed]
  case newName =>
    intro saved q _
    exact .put fun files answer => by rw [judgeNewName, judgeNewName, readName_trimmed]

/-- **Blanks.** A run of questions does not look at blanks around answers. -/
theorem collect_ignoresBlanks (s : Setup) (signature : Signature) (overrides : Arguments) :
    IgnoresBlanks (s.collect signature overrides) :=
  collect_modular Dialogue.ignoresBlanks_modular
    (s.holdsOfQuestions_ignoresBlanks signature overrides)

end Setup

/-! ### Lines of a text -/

namespace Source

/-- The lines that are entered are those of the text, without the breaks at their ends. -/
theorem ofTerminal_toUTF8 (text : String) :
    ofTerminal text.toUTF8
      = ⟨(pieces (· == '\n') text.toList).map fun line => String.ofList (withoutBreaks line),
        .closed⟩ := by
  rw [ofTerminal, Text.byteLines_toUTF8]
  induction pieces (· == '\n') text.toList with
  | nil => rfl
  | cons line rest ih =>
    rw [List.map_cons, ofLines, Text.ofByteLine_encoded]
    dsimp only
    rw [ih, List.map_cons]

/-- The answers of a script and of a terminal are the same up to blanks. -/
theorem trimmed_answers (text : String) :
    (ofScript text).answers.map trimmed = (ofTerminal text.toUTF8).answers.map trimmed := by
  rw [ofTerminal_toUTF8, ofScript, Text.lines, List.map_map, List.map_map]
  apply List.map_congr_left
  intro line _
  simp only [Function.comp_apply, trimmed, String.toList_ofList, Text.trim_withoutEnd,
    Text.trim_withoutBreaks]

end Source

/-! ### Terminals -/

namespace Terminal

/-- The answers that are still to come from a terminal. -/
def source (t : Terminal) : Source := Source.ofLines t.lines

/-- Where there is no limit, everything is written. -/
theorem write_unlimited {t : Terminal} (h : t.room = none) (text : String) :
    t.write text = (true, { t with written := t.written ++ text.toUTF8.toList }) := by
  rw [write, h]

/-- If all that is written finds room, a question gets the next answer. -/
theorem prompt_answer {t : Terminal} (hroom : t.room = none) {answer : String}
    {rest : List String} {ending : Ending} (h : t.source = ⟨answer :: rest, ending⟩) (q : Question) :
    ∃ t', t.prompt q = (.ok answer, t') ∧ t'.room = none ∧ t'.source = ⟨rest, ending⟩ := by
  obtain ⟨lines, written, room⟩ := t
  obtain rfl : room = none := hroom
  rw [prompt, write_unlimited rfl]
  dsimp only
  -- A line that is not whole text ends the source there, so the first line is the first answer.
  cases lines with
  | nil => cases h
  | cons line lines =>
    rw [source, Source.ofLines] at h
    dsimp only at h
    rw [read]
    dsimp only
    cases hline : Text.ofByteLine? line with
    | none =>
      rw [hline] at h
      cases h
    | some found =>
      rw [hline] at h
      obtain ⟨hanswers, hending⟩ := Source.mk.inj h
      obtain ⟨rfl, hrest⟩ := List.cons.inj hanswers
      dsimp only
      rw [write_unlimited rfl]
      exact ⟨_, rfl, rfl, congr (congrArg Source.mk hrest) hending⟩

/-- If there are no more answers, a question ends the session. -/
theorem prompt_none {t : Terminal} (hroom : t.room = none) {ending : Ending}
    (h : t.source = ⟨[], ending⟩) (q : Question) :
    ∃ t', t.prompt q = (.error (.ended ending), t') := by
  obtain ⟨lines, written, room⟩ := t
  obtain rfl : room = none := hroom
  rw [prompt, write_unlimited rfl]
  dsimp only
  -- Nothing to read is the end of the input, or a line that is not text.
  cases lines with
  | nil =>
    obtain ⟨-, rfl⟩ := Source.mk.inj h
    exact ⟨_, rfl⟩
  | cons line lines =>
    rw [source, Source.ofLines] at h
    dsimp only at h
    rw [read]
    dsimp only
    cases hline : Text.ofByteLine? line with
    | none =>
      rw [hline] at h
      obtain ⟨-, rfl⟩ := Source.mk.inj h
      exact ⟨_, rfl⟩
    | some found =>
      rw [hline] at h
      cases h

/-- Questions are put on a terminal one after another, and get their answers there. -/
inductive Answers : Terminal → List Exchange → Terminal → Prop
  | none (t : Terminal) : Answers t [] t
  | next {t t' t'' : Terminal} {q : Question} {answer : String} {es : List Exchange}
      (h : t.prompt q = (.ok answer, t')) (rest : Answers t' es t'') :
      Answers t (⟨q, answer⟩ :: es) t''

/-- A terminal whose source begins with some answers gives them, and has the others left. -/
theorem answers_of_source {t : Terminal} (hroom : t.room = none) {es : List Exchange}
    {rest : List String} {ending : Ending}
    (h : t.source = ⟨es.map (·.answer) ++ rest, ending⟩) :
    ∃ t', t.Answers es t' ∧ t'.room = none ∧ t'.source = ⟨rest, ending⟩ := by
  induction es generalizing t with
  | nil => exact ⟨t, .none t, hroom, h⟩
  | cons e es ih =>
    obtain ⟨t', hprompt, hroom', hsource⟩ := prompt_answer hroom h e.question
    obtain ⟨t'', hrest, hend⟩ := ih hroom' hsource
    exact ⟨t'', .next hprompt hrest, hend⟩

/-- All that is asked in a part of a session is asked on a terminal and answered there.  Where an
    answer is missing, the terminal has none. -/
def Carries (t : Terminal) (ending : Ending) (σ : Session) :
    EStateM.Result Stop Session α → Prop
  | .ok _ τ => ∃ es t', σ.Exchanges τ es ∧ t.Answers es t'
  | .error (.unanswered q) τ => ∃ ρ es t' t'', σ.Exchanges ρ es ∧ τ = ρ.note (.asked q)
      ∧ t.Answers es t' ∧ t'.prompt q = (.error (.ended ending), t'')
  | .error .crashed _ => True

/-- A part that ends with answers from a list ends the same way at a terminal. -/
theorem carries {t : Terminal} (hroom : t.room = none) {ending : Ending} {σ : Session}
    (hsource : t.source = ⟨σ.answers, ending⟩) {breaks : String → Prop} {blame : FileTree → Prop}
    {r : EStateM.Result Stop Session α} (h : Dialogue.Ends breaks blame σ r) :
    t.Carries ending σ r := by
  cases r with
  | ok a τ =>
    obtain ⟨es, hes⟩ := h
    rw [hes.answers] at hsource
    obtain ⟨t', hanswers, -⟩ := answers_of_source hroom hsource
    exact ⟨es, t', hes, hanswers⟩
  | error stop τ =>
    -- The answers of the exchanges are read one after the other, and the next prompt finds nothing.
    cases stop with
    | unanswered q =>
      obtain ⟨ρ, es, hes, hnone, hτ⟩ := h
      rw [hes.answers, hnone] at hsource
      obtain ⟨t', hanswers, hroom', hsource'⟩ := answers_of_source hroom hsource
      obtain ⟨t'', hprompt⟩ := prompt_none hroom' hsource' q
      exact ⟨ρ, es, t', t'', hes, hτ, hanswers, hprompt⟩
    | crashed => trivial

end Terminal

/-! ### The same session -/

/-- **Scripts and terminals.** A run of questions goes the same way whether a text is read from a
    file or entered on a terminal: it has the same result or stops at the same question, with the
    same events and files.  What it asks is asked on the terminal and answered there.  Unless an
    answer makes it break off, it stops only where both have no answer left. -/
theorem Setup.collect_alike {t : FileTree} {path text : String} (hscript : t.readText path = .ok text)
    (s : Setup) (signature : Signature) (overrides : Arguments) (files : FileTree) :
    ∃ script, Source.load t path = .ok script
      ∧ Dialogue.EndAlike (fun τ τ' => τ.events = τ'.events ∧ τ.files = τ'.files
          ∧ τ.answers.map trimmed = τ'.answers.map trimmed)
        ((s.collect signature overrides).run ⟨script.answers, files, []⟩)
        ((s.collect signature overrides).run ⟨(Source.ofTerminal text.toUTF8).answers, files, []⟩)
      ∧ (Terminal.start text.toUTF8 none).Carries .closed
        ⟨(Source.ofTerminal text.toUTF8).answers, files, []⟩
        ((s.collect signature overrides).run ⟨(Source.ofTerminal text.toUTF8).answers, files, []⟩)
      ∧ ((∀ answer ∈ script.answers, ¬ s.Breaks answer) →
        ¬ s.SavedBreaks signature ((s.store signature).list files) files →
        ∀ stop τ, (s.collect signature overrides).run ⟨script.answers, files, []⟩ = .error stop τ →
          ∃ q, stop = .unanswered q) := by
  have hload : Source.load t path = .ok (Source.ofScript text) := by
    rw [Source.load, hscript]
  refine ⟨Source.ofScript text, hload, ?_, ?_, ?_⟩
  -- Only the blanks around the answers differ, and these are trimmed before all else.
  · apply (s.collect_ignoresBlanks signature overrides).endAlike
    · intro τ τ' h
      obtain ⟨hanswers, hfiles, hevents⟩ := Session.mk.inj h
      exact ⟨hevents, hfiles, hanswers⟩
    · rw [Session.tidied, Session.tidied, Source.trimmed_answers]
  · apply Terminal.carries rfl _ (s.collect_run_ends signature overrides _)
    rw [Source.ofTerminal_toUTF8]
    exact Source.ofTerminal_toUTF8 text
  -- Without crashes a run can only stop for want of an answer.
  · intro hanswers hsaved stop τ hstop
    have hends : Dialogue.EndsForWant (s.collect signature overrides)
        ⟨(Source.ofScript text).answers, files, []⟩ :=
      s.collect_ends signature overrides hanswers hsaved
    obtain ⟨q, -, -, hq, -⟩ := hends.stopped stop τ hstop
    exact ⟨q, hq⟩

/-- Lines that end in different ways, a blank one and one that does not end. -/
theorem Setup.collect_alike_returns :
    ∃ t signature c τ, t.readText "answers.txt" = .ok "'x'\r\n\r\r\n5\r\r\nFalse"
      ∧ Signature.build "f" [.param "n" "int" none] = .ok signature
      ∧ ∃ script, Source.load t "answers.txt" = .ok script
        ∧ script.answers = ["'x'", "\r", "5\r", "False"]
        ∧ (Source.ofTerminal "'x'\r\n\r\r\n5\r\r\nFalse".toUTF8).answers = ["'x'", "", "5", "False"]
        ∧ Dialogue.EndAlike (fun τ τ' => τ.events = τ'.events ∧ τ.files = τ'.files
            ∧ τ.answers.map trimmed = τ'.answers.map trimmed)
          ((Setup.collect ⟨[], ⟨0⟩, true, "."⟩ signature Arguments.empty).run
            ⟨["'x'", "\r", "5\r", "False"], FileTree.empty, []⟩)
          ((Setup.collect ⟨[], ⟨0⟩, true, "."⟩ signature Arguments.empty).run
            ⟨["'x'", "", "5", "False"], FileTree.empty, []⟩)
        ∧ (Setup.collect ⟨[], ⟨0⟩, true, "."⟩ signature Arguments.empty).run
            ⟨["'x'", "\r", "5\r", "False"], FileTree.empty, []⟩ = .ok c τ
        ∧ c.tokens = [("n", "5")] := by
  obtain ⟨text, htext⟩ : ∃ text, text = "'x'\r\n\r\r\n5\r\r\nFalse" := ⟨_, rfl⟩
  have hbuild : Signature.build "f" [.param "n" "int" none]
      = .ok ⟨"f", none, [⟨"n", .int, none, none⟩]⟩ := rfl
  have hscript : FileTree.readText ⟨[(["answers.txt"], .file text.toUTF8 0)], 1⟩ "answers.txt"
      = .ok text := FileTree.readText_of_find rfl
  have hlines : (Source.ofScript text).answers = ["'x'", "\r", "5\r", "False"] := by
    rw [htext]
    rfl
  have hentered : (Source.ofTerminal text.toUTF8).answers = ["'x'", "", "5", "False"] := by
    rw [Source.ofTerminal_toUTF8, htext]
    rfl
  obtain ⟨script, hload, halike, -, -⟩ := Setup.collect_alike hscript ⟨[], ⟨0⟩, true, "."⟩
    ⟨"f", none, [⟨"n", .int, none, none⟩]⟩ Arguments.empty FileTree.empty
  have hanswers : script.answers = ["'x'", "\r", "5\r", "False"] := by
    rw [Source.load, hscript] at hload
    obtain rfl := Except.ok.inj hload
    exact hlines
  rw [hanswers, hentered] at halike
  obtain ⟨c, τ, hrun, htokens⟩ : ∃ c τ,
      (Setup.collect ⟨[], ⟨0⟩, true, "."⟩ ⟨"f", none, [⟨"n", .int, none, none⟩]⟩
        Arguments.empty).run ⟨["'x'", "\r", "5\r", "False"], FileTree.empty, []⟩ = .ok c τ
      ∧ c.tokens = [("n", "5")] := ⟨_, _, rfl, rfl⟩
  exact ⟨_, _, c, τ, htext ▸ hscript, hbuild, script, hload, hanswers, htext ▸ hentered, halike,
    hrun, htokens⟩

end Questionnaire
