import Questionnaire.Proofs.FileTree.Place
import Questionnaire.Proofs.Session.Frame
import Questionnaire.Proofs.Session.Shared

namespace Questionnaire

/-!
# Loops that nothing breaks off

Only an answer whose evaluation breaks off could break off a loop, be it entered or saved.  What a
run leaves in files holds no such answer: answers are saved after they have been evaluated, and a
drawing is no document.

* `Setup.AdmitsAll` — no saved answer breaks a session off.
* `Setup.collect_admits`, `Registry.builtin_admits` — runs of questions and of targets leave it so.
* `Course.ends_for_want` — a loop ends early only where an answer is missing.
* `Setup.repeatRun_alone` — the loop as a whole.
-/

/-! ### Documents that are no configurations -/

namespace Saved

/-- Markup does not begin with a key. -/
theorem readPath_markup (fuel : Nat) (rest : List Char) :
    Toml.readPath fuel ('<' :: rest) = none := by
  cases fuel with
  | zero => rfl
  | succ fuel =>
    have hskip : Toml.skipBlanks ('<' :: rest) = '<' :: rest := rfl
    have hkey : Toml.readKey ('<' :: rest) = none := rfl
    rw [Toml.readPath, hskip, hkey]

/-- A markup is no document. -/
theorem read_markup (function : String) {text : String} {rest : List Char}
    (htext : text.toList = '<' :: rest) : read function text = .error .malformed := by
  -- A `<` starts neither a table nor a key, so the first statement fails already.
  have hstatement : Toml.readStatement ⟨[], []⟩ ('<' :: rest) = none := by
    unfold Toml.readStatement
    split
    · rename_i heq
      cases heq
    · rw [Toml.readEntry, readPath_markup]
  have hread : Toml.read? text = none := by
    unfold Toml.read?
    rw [htext]
    show (if Toml.hasWholeBreaks ('<' :: rest) then
      (Toml.readStatements (rest.length + 2) ⟨[], []⟩ ('<' :: rest)).map Toml.Draft.entries
      else none) = none
    have hskip : Toml.skipVoid false ('<' :: rest) = some ('<' :: rest) := rfl
    rw [Toml.readStatements, hskip]
    dsimp only
    rw [hstatement]
    simp
  rw [read, hread]
  rfl

end Saved

/-! ### Files without bad answers -/

namespace Setup

variable {s : Setup} {function : String} {files files' : FileTree}

/-- No answer in a document breaks a session off, if it holds a configuration of the function. -/
def Admits (s : Setup) (function : String) (content : ByteArray) : Prop :=
  ∀ text saved, Text.ofUtf8? content = some text → Saved.read function text = .ok saved →
    ∀ key answer, (key, answer) ∈ saved.values → ¬ s.Breaks answer

/-- No answer that is saved for a function breaks a session off: there is none in the files of the
    directory for its configurations. -/
def AdmitsAll (s : Setup) (function : String) (files : FileTree) : Prop :=
  ∀ step content time,
    files.file? (FileTree.placeOf (Store.below s.savesRoot function).directory ++ [step])
      = some (content, time) → s.Admits function content

/-- Without files there are no saved answers. -/
theorem AdmitsAll.empty (s : Setup) (function : String) :
    s.AdmitsAll function FileTree.empty := by
  intro step content time hfile
  have hnode := FileTree.node_of_file hfile
  unfold FileTree.node? at hnode
  split at hnode
  · cases hnode
  · cases hnode

/-- A configuration that can be chosen is in a file of that directory. -/
theorem file_of_choice {signature : Signature} (hname : signature.name ≠ "")
    (hslash : '/' ∉ signature.name.toList) {name : String} {content : ByteArray}
    (hchoice : name ∈ s.choices signature files)
    (hread : files.read ((s.store signature).pathFor name) = .ok content) :
    ∃ step time, files.file? (FileTree.placeOf (s.store signature).directory ++ [step])
      = some (content, time) := by
  obtain ⟨place, time, hlocate, hfile⟩ := FileTree.file_of_read hread
  obtain ⟨-, hfull, hflat⟩ := Filename.check_ok (of_decide_eq_true (List.mem_filter.mp hchoice).2)
  have hstep := Store.isStep_fileName (s := s.store signature) hname hslash hfull hflat
  rw [FileTree.locate_eq_placeOf hlocate, Store.pathFor, FileTree.placeOf_join _ hstep] at hfile
  exact ⟨_, time, hfile⟩

/-- So none of the configurations that can be chosen breaks a session off. -/
theorem AdmitsAll.not_savedBreaks {signature : Signature} (hname : signature.name ≠ "")
    (hslash : '/' ∉ signature.name.toList) (h : s.AdmitsAll signature.name files) :
    ¬ s.SavedBreaks signature (s.choices signature files) files := by
  rintro ⟨name, hchoice, saved, hrestore, key, answer, hmem, hbreaks⟩
  obtain ⟨text, htext, hread⟩ := Store.restore_eq_ok.mp hrestore
  obtain ⟨content, hcontent, hutf8⟩ := Except.bind_eq_ok.mp htext
  obtain ⟨step, time, hfile⟩ := file_of_choice hname hslash hchoice hcontent
  split at hutf8
  · rename_i text' hdecoded
    obtain rfl := Except.ok.inj hutf8
    exact h step content time hfile text' saved hdecoded hread key answer hmem hbreaks
  · cases hutf8

/-- Directories in the tree do not change what files hold. -/
theorem AdmitsAll.addsDirectories (h : s.AdmitsAll function files)
    (hmade : files.AddsDirectories files') : s.AdmitsAll function files' := by
  intro step content time hfile
  rw [hmade.file_eq] at hfile
  exact h step content time hfile

/-- A file may be set if its content is admitted. -/
theorem AdmitsAll.setNode (h : s.AdmitsAll function files) {place : Place}
    (hnode : files.node? place ≠ some .directory) {content : ByteArray}
    (hcontent : s.Admits function content) (time : Int) :
    s.AdmitsAll function (files.setNode place (.file content time)) := by
  intro step content' time' hfile
  rw [FileTree.file_setNode (FileTree.isBase_of_node hnode)] at hfile
  split at hfile
  · obtain ⟨rfl, -⟩ := Prod.mk.inj (Option.some.inj hfile)
    exact hcontent
  · exact h step content' time' hfile

/-- The answers of a collection have values, so a document with them is admitted. -/
theorem admits_document {signature : Signature} {overrides : Arguments} {c : Collection}
    (hc : c.IsFaithful s signature overrides) (function : String) :
    s.Admits function (Saved.document function ⟨c.tokens⟩).toUTF8 := by
  intro text saved htext hread key answer hmem hbreaks
  rw [Text.ofUtf8_toUTF8] at htext
  obtain rfl := Option.some.inj htext
  rw [Saved.read_document function hc.once] at hread
  obtain rfl := Except.ok.inj hread
  obtain ⟨-, -, v, -, heval⟩ := hc.answers key answer hmem
  rw [Breaks, heval] at hbreaks
  cases hbreaks

/-- A picture is no configuration, so nothing is read from it. -/
theorem admits_markup {text : String} {rest : List Char} (htext : text.toList = '<' :: rest)
    (function : String) : s.Admits function text.toUTF8 := by
  intro text' saved hdecoded hread
  rw [Text.ofUtf8_toUTF8] at hdecoded
  obtain rfl := Option.some.inj hdecoded
  rw [Saved.read_markup function htext] at hread
  cases hread

/-! ### Runs -/

/-- What a run of questions saves is admitted. -/
theorem collect_admits {signature : Signature} (hwf : signature.WellFormed) {overrides : Arguments}
    {c : Collection} {σ τ : Session} (h : s.AdmitsAll signature.name σ.files)
    (hrun : (s.collect signature overrides).run σ = .ok c τ) :
    s.AdmitsAll signature.name τ.files := by
  have hwrites := s.collect_writes signature overrides σ
  -- The collection writes one file, below directories it has made, and what it writes are the
  -- tokens of this run, which do not break.
  rw [hrun] at hwrites
  obtain ⟨t, hmade, hkeeps⟩ := hwrites
  have ht : s.AdmitsAll signature.name t := h.addsDirectories hmade
  rw [Keeps] at hkeeps
  split at hkeeps
  · obtain ⟨name, -, hsave⟩ := hkeeps
    obtain ⟨-, made, place, hprepared, -, hnode, hfiles⟩ := Store.save_done hsave
    obtain ⟨gs, hkeys, hfits, hholds⟩ := collect_holds hwf hrun
    rw [hfiles]
    exact (ht.addsDirectories hprepared).setNode hnode
      (admits_document (hholds.isFaithful hwf hkeys hfits) _) _
  · rw [hkeeps]
    exact ht

end Setup

/-! ### Targets -/

/-- A text that starts as a markup goes on as one. -/
theorem Text.markup_append {text : String} (h : ∃ rest, text.toList = '<' :: rest)
    (more : String) : ∃ rest, (text ++ more).toList = '<' :: rest := by
  obtain ⟨rest, hrest⟩ := h
  exact ⟨rest ++ more.toList, by rw [String.toList_append, hrest, List.cons_append]⟩

/-- A picture is written as markup. -/
theorem Lindenmayer.Drawing.svg_markup (d : Drawing) : ∃ rest, d.svg.toList = '<' :: rest := by
  unfold svg opening
  repeat apply Text.markup_append
  exact ⟨_, rfl⟩

/-- A drawing changes at most the file that it is written to. -/
theorem Lindenmayer.draw_admits {s : Setup} {function : String} {files files' : FileTree}
    {chance : Nat → Rgb} {a : Arguments} {result : Json}
    (h : s.AdmitsAll function files) (hdraw : draw chance a files = .ok (result, files')) :
    s.AdmitsAll function files' := by
  obtain ⟨settings, -, hdraw⟩ := Except.bind_eq_ok.mp hdraw
  obtain ⟨drawing, -, hdraw⟩ := Except.bind_eq_ok.mp hdraw
  split at hdraw
  · cases hdraw
    exact h
  · obtain ⟨written, hwritten, hdraw⟩ := Except.bind_eq_ok.mp hdraw
    obtain ⟨place, -, hnode, hset⟩ := FileTree.write_eq_ok (Except.mapError_eq_ok.mp hwritten)
    obtain ⟨rest, hrest⟩ := drawing.svg_markup
    cases hdraw
    rw [hset]
    exact h.setNode hnode (Setup.admits_markup hrest function) _

/-- The targets that are there from the start leave no bad answers in files. -/
theorem Registry.builtin_admits {chance : Nat → Lindenmayer.Rgb} {name : String} {t : Target}
    (htarget : (Registry.builtin chance).get? name = some t) {s : Setup} {function : String}
    {files : FileTree} (h : s.AdmitsAll function files) (a : Arguments) :
    s.AdmitsAll function (t.invoke a files).2 := by
  rcases get?_builtin htarget with rfl | rfl
  · exact h
  · unfold Lindenmayer.target
    dsimp only
    split
    · rename_i hdraw
      exact Lindenmayer.draw_admits h hdraw
    · exact h

/-- Their names can stand in those of files. -/
theorem Registry.builtin_name {chance : Nat → Lindenmayer.Rgb} {name : String} {t : Target}
    (htarget : (Registry.builtin chance).get? name = some t) :
    t.signature.name ≠ "" ∧ '/' ∉ t.signature.name.toList := by
  have hdraws : "lindenmayer" ≠ "" ∧ '/' ∉ "lindenmayer".toList := by decide
  have hagain : "rerun" ≠ "" ∧ '/' ∉ "rerun".toList := by decide
  rcases get?_builtin htarget with rfl | rfl
  · assumption
  · assumption

/-! ### Loops -/

/-- The functions of a target only add answers that have a value. -/
theorem Answer.crash_of_functions {functions : List String} {answer : String}
    (h : evaluate functions answer = .error .crash) : evaluate [] answer = .error .crash := by
  unfold evaluate at h ⊢
  split at h
  · cases h
  · unfold evaluateTrimmed at h ⊢
    dsimp only at h ⊢
    split at h
    · cases h
    · rw [if_neg (by simp)]
      exact h

namespace Setup

variable {s : Setup}

/-- Without a store, only an answer breaks the question off. -/
theorem rerun_accounts (hsaves : s.enableSaves = false) :
    Dialogue.Accounts s.Breaks (fun _ => False) (s.run Rerun.target Arguments.empty) := by
  have hcollect : Dialogue.Accounts s.Breaks (fun _ => False)
      (s.collect Rerun.target.signature Arguments.empty) := by
    rw [show Rerun.target.signature = Rerun.signature from rfl, collect_rerun hsaves]
    exact (ask_accounts _).map _
  exact hcollect.bind fun c => invoke_accounts _ _

/-- A part that ends early for want of an answer. -/
theorem unanswered_of_ends {α : Type} {x : Dialogue α} {blame : FileTree → Prop} {σ τ : Session}
    {stop : Stop} (hends : Dialogue.Ends s.Breaks blame σ (x.run σ))
    (hrun : x.run σ = .error stop τ)
    (hblame : ¬ blame σ.files) (hanswers : ∀ answer ∈ σ.answers, ¬ s.Breaks answer) :
    ∃ q, stop = .unanswered q := by
  rw [hrun] at hends
  cases stop with
  | unanswered q => exact ⟨q, rfl⟩
  | crashed =>
    rcases hends with hblamed | ⟨answer, hmem, hbreaks⟩
    · exact absurd hblamed hblame
    · exact absurd hbreaks (hanswers answer hmem)

end Setup

section

variable {chance : Nat → Lindenmayer.Rgb} {name : String} {t : Target} {time : Duration}
  {root : String} {saves : Bool} {overrides : Arguments} {answers : List String} {files : FileTree}

/-- A run that is alone leaves files without bad answers, if there were none. -/
theorem Target.runAlone_admits (htarget : (Registry.builtin chance).get? name = some t)
    {result : Option Json} {σ : Session}
    (hrun : t.runAlone time root saves overrides answers files = .ok result σ)
    (hsaved : Setup.AdmitsAll ⟨t.functions, time, saves, root⟩ t.name files) :
    Setup.AdmitsAll ⟨t.functions, time, saves, root⟩ t.name σ.files := by
  obtain ⟨c, ρ, hcollect, hinvoke⟩ := Dialogue.run_bind_eq_ok.mp hrun
  rw [Setup.invoke_run_eq] at hinvoke
  cases hinvoke
  refine Registry.builtin_admits htarget
    (Setup.collect_admits (Registry.builtin_wellFormed htarget) ?_ hcollect) _
  exact hsaved

/-- A run leaves none but answers that were there. -/
theorem Target.mem_of_runAlone {result : Option Json} {σ : Session}
    (hrun : t.runAlone time root saves overrides answers files = .ok result σ)
    {answer : String} (hmem : answer ∈ σ.answers) : answer ∈ answers := by
  obtain ⟨used, hused⟩ := Setup.run_answers hrun
  dsimp only at hused
  rw [hused]
  exact List.mem_append_right _ hmem

/-- A loop ends early only where an answer is missing. -/
theorem Course.ends_for_want (htarget : (Registry.builtin chance).get? name = some t)
    {r : EStateM.Result Stop Session Unit} (h : Course time root saves t overrides answers files r)
    (hanswers : ∀ answer ∈ answers, Answer.evaluate [] answer ≠ .error .crash)
    (hsaved : Setup.AdmitsAll ⟨t.functions, time, saves, root⟩ t.name files) :
    ∀ stop τ, r = .error stop τ → ∃ q, stop = .unanswered q := by
  -- The functions registered for a target do not decide whether an answer ends the program.
  have hbreaks (s : Setup) {answer : String}
      (hanswer : Answer.evaluate [] answer ≠ .error .crash) : ¬ s.Breaks answer :=
    fun h => hanswer (Answer.crash_of_functions h)
  -- The induction is on the rounds.  Each leaves fewer answers, and a store that still admits all
  -- that it holds.
  induction h with
  | stopped hrun =>
    rintro stop τ ⟨⟩
    obtain ⟨hname, hslash⟩ := Registry.builtin_name htarget
    exact Setup.unanswered_of_ends (Setup.run_ends t overrides _) hrun
      (hsaved.not_savedBreaks hname hslash) fun answer hmem => hbreaks _ (hanswers answer hmem)
  | once => rintro stop τ ⟨⟩
  | unanswered hrun _ hquestion =>
    rintro stop τ ⟨⟩
    exact Setup.unanswered_of_ends (Setup.rerun_accounts rfl _) hquestion id
      fun answer hmem => hbreaks _ (hanswers answer (Target.mem_of_runAlone hrun hmem))
  | ended => rintro stop τ ⟨⟩
  | @again answers files result σ ρ r hrun _ hquestion _ ih =>
    have hleft (answer : String) (hmem : answer ∈ ρ.answers) : answer ∈ answers :=
      Target.mem_of_runAlone hrun (Target.mem_of_runAlone hquestion hmem)
    -- The question for another round does not touch the files.
    have hfiles : ρ.files = σ.files := (Setup.rerun_run rfl hquestion).1
    intro stop τ hstop
    cases r with
    | ok a final => cases hstop
    | error stop' final =>
      cases hstop
      exact ih (fun answer hmem => hanswers answer (hleft answer hmem))
        (hfiles ▸ Target.runAlone_admits htarget hrun hsaved) stop final rfl

end

/-! ### The loop as a whole -/

/-- **The loop.** If no answer breaks it off, be it entered or saved, the loop comes to an end, and
    early only where an answer is missing.  Its runs go as if each were alone, with a setup of its
    own and with the answers and files that are left; it goes on after a true answer, and for the
    target that puts the question it is a single run.  All this is the same with one setup that is
    changed to and fro, whatever it was before, and however many more rounds there might be. -/
theorem Setup.repeatRun_alone {chance : Nat → Lindenmayer.Rgb} {name : String} {t : Target}
    (htarget : (Registry.builtin chance).get? name = some t) (w : Setup) (saves : Bool)
    (overrides : Arguments) {answers : List String} {files : FileTree}
    (hanswers : ∀ answer ∈ answers, Answer.evaluate [] answer ≠ .error .crash)
    (hsaved : (w.forTarget t saves).AdmitsAll t.name files) :
    ∃ r, ((w.forTarget t saves).repeatRun t overrides).run ⟨answers, files, []⟩ = r
      ∧ (∀ r', Course w.reportTime w.savesRoot saves t overrides answers files r' ↔ r' = r)
      ∧ (∀ rounds, answers.length < rounds →
        ((Shared.loop (Registry.builtin chance) t overrides saves rounds).run' w).run
          ⟨answers, files, []⟩ = r)
      ∧ (t.name = Rerun.target.name →
        ((w.forTarget t saves).runAndShow t overrides).run ⟨answers, files, []⟩ = r)
      ∧ ∀ stop τ, r = .error stop τ → ∃ q, stop = .unanswered q := by
  obtain ⟨r, hr⟩ : ∃ r, Course w.reportTime w.savesRoot saves t overrides answers files r :=
    exists_course answers files
  refine ⟨r, hr.repeatRun_run, ?_, ?_, hr.runAndShow_run, hr.ends_for_want htarget hanswers hsaved⟩
  -- There is one course for the answers and the files, so both loops take it.
  · intro r'
    rw [course_iff, hr.repeatRun_run]
    exact eq_comm
  · intro rounds hrounds
    exact Shared.loop_run hr hrounds

/-- A drawing that fails each time, having asked nothing but whether to save. -/
theorem Setup.repeatRun_alone_twice :
    ∃ t τ, (Registry.builtin fun _ => ⟨0, 0, 0⟩).get? "lindenmayer" = some t
      ∧ (∀ r, Course ⟨0⟩ "." true t ⟨t.signature.params.map fun p => (p.name, .none)⟩
          ["False", "", "False", "False"] FileTree.empty r ↔ r = .ok () τ)
      ∧ τ.questions.map (·.parameter) = ["Save", "rerun", "Save", "rerun"]
      ∧ τ.reports.map (·.title) = ["Runtime Exception", "Runtime Exception"]
      ∧ τ.answers = [] := by
  obtain ⟨overrides, hoverrides⟩ : ∃ overrides : Arguments,
      overrides = ⟨Lindenmayer.signature.params.map fun p => (p.name, .none)⟩ := ⟨_, rfl⟩
  have htarget : (Registry.builtin fun _ => ⟨0, 0, 0⟩).get? "lindenmayer"
      = some (Lindenmayer.target fun _ => ⟨0, 0, 0⟩) := rfl
  have hanswers (answer : String) (hmem : answer ∈ ["False", "", "False", "False"]) :
      Answer.evaluate [] answer ≠ .error .crash := by
    have hno : Answer.evaluate [] "False" = .ok (.bool false) := rfl
    have hblank : Answer.evaluate [] "" = .error .blank := rfl
    simp only [List.mem_cons, List.not_mem_nil, or_false] at hmem
    rcases hmem with rfl | rfl | rfl | rfl <;> simp [hno, hblank]
  -- the setup has been used for something else before
  obtain ⟨r, hloop, hcourse, -⟩ := Setup.repeatRun_alone htarget ⟨[], ⟨0⟩, false, "."⟩ true
    overrides hanswers (Setup.AdmitsAll.empty _ _)
  obtain ⟨τ, hrun, hevents⟩ : ∃ τ,
      (Setup.repeatRun ⟨Lindenmayer.Coloring.names, ⟨0⟩, true, "."⟩
        (Lindenmayer.target fun _ => ⟨0, 0, 0⟩) overrides).run
          ⟨["False", "", "False", "False"], FileTree.empty, []⟩ = .ok () τ
      ∧ τ.questions.map (·.parameter) = ["Save", "rerun", "Save", "rerun"]
      ∧ τ.reports.map (·.title) = ["Runtime Exception", "Runtime Exception"]
      ∧ τ.answers = [] := by
    rw [hoverrides]
    exact ⟨_, rfl, rfl, rfl, rfl⟩
  obtain rfl : EStateM.Result.ok () τ = r := hrun.symm.trans hloop
  rw [hoverrides] at hcourse
  exact ⟨_, τ, htarget, hcourse, hevents⟩

end Questionnaire
