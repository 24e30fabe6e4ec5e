import Questionnaire.Proofs.Session.Collect
import Questionnaire.Proofs.Store

namespace Questionnaire

/-!
# Saving and restoring

* `Setup.save_saved` — what a run of questions has saved, and where.
* `Setup.loadAll_saved` — fitting values are loaded again from their answers.
* `Setup.collectFrom_restored` — with all values restored, nothing is asked.
* `Setup.collect_again` — a second run that restores what a first one has saved collects the same.
-/

open Questionnaire.Text (trimmed)

/-- Whether a value fits depends on the functions that answers may refer to, and on nothing else
    of a setup. -/
theorem Given.Fits.of_functions_eq {s s' : Setup} {p : Parameter} {g : Given} (h : g.Fits s p)
    (hfunctions : s'.functions = s.functions) : g.Fits s' p where
  accepted := h.accepted
  asked := h.asked
  token := by
    rw [hfunctions]
    exact h.token
  default := h.default

/-- Among the answers, the one of a parameter is found by name. -/
theorem Givens.lookup_tokens {gs : Givens} (hdistinct : ((gs.map (·.1)).map (·.name)).Nodup)
    {p : Parameter} {g : Given} (hmem : (p, g) ∈ gs) : gs.tokens.lookup p.name = g.token := by
  have hnodup := List.Nodup.sublist gs.keys_tokens_sublist hdistinct
  cases htoken : g.token with
  | some token => exact Keyed.lookup_of_mem hnodup (mem_tokens.mpr ⟨p, g, hmem, rfl, htoken⟩)
  | none =>
    apply Keyed.lookup_eq_none_of_not_mem
    intro hkey
    obtain ⟨⟨name, token⟩, hpair, hname⟩ := List.mem_map.mp hkey
    obtain ⟨q, g', hmem', hq, htoken'⟩ := mem_tokens.mp hpair
    -- An answer under this name is one of this parameter, which has none.
    have hsame : (q, g') = (p, g) := by
      rw [List.map_map] at hdistinct
      exact List.inj_on_of_nodup_map hdistinct hmem' hmem (hq.trans hname)
    obtain ⟨-, rfl⟩ := Prod.mk.inj hsame
    rw [htoken] at htoken'
    cases htoken'

namespace Setup

variable {s : Setup}

/-! ### The first run -/

/-- A name that is read passes the check, is not empty and has no slash. -/
theorem readName_accepted {q : Question} {answer name : String}
    (h : s.readName q answer = .accepted name) :
    Filename.check (.str name) = .ok name ∧ name ≠ "" ∧ '/' ∉ name.toList := by
  obtain ⟨given, -, hcheck⟩ := Judgment.bind_eq_accepted.mp h
  split at hcheck
  · rename_i found hfound
    obtain rfl := Judgment.accepted.inj hcheck
    obtain ⟨hvalue, hne, hslash⟩ := Filename.check_ok hfound
    rw [hvalue] at hfound
    exact ⟨hfound, hne, hslash⟩
  · cases hcheck

/-- Under an accepted name, the answers have been saved. -/
theorem judgeNewName_accepted {store : Store} {saved : Saved} {q : Question}
    {files files' : FileTree} {answer path : String}
    (h : s.judgeNewName store saved q files answer = (.accepted path, files')) :
    ∃ name, Filename.check (.str name) = .ok name ∧ name ≠ "" ∧ '/' ∉ name.toList
      ∧ store.save files name saved = (.ok path, files') := by
  unfold judgeNewName at h
  split at h
  · rename_i name hname
    -- A name is read first; the store is only written to with one that is valid.
    obtain ⟨hcheck, hne, hslash⟩ := readName_accepted hname
    split at h
    · rename_i written files'' hsave
      obtain ⟨hpath, rfl⟩ := Prod.mk.inj h
      obtain rfl := Judgment.accepted.inj hpath
      exact ⟨name, hcheck, hne, hslash, hsave⟩
    · cases (Prod.mk.inj h).1
  · cases (Prod.mk.inj h).1
  · cases (Prod.mk.inj h).1

/-- Where something has been saved, it is the answers of the collection, under a valid name. -/
theorem save_saved {signature : Signature} {c : Collection} {path : String} {σ τ : Session}
    (h : (s.save signature c).run σ = .ok (some path) τ) :
    ∃ name files, Filename.check (.str name) = .ok name ∧ name ≠ "" ∧ '/' ∉ name.toList
      ∧ (s.store signature).save files name ⟨c.tokens⟩ = (.ok path, τ.files) := by
  unfold save at h
  obtain ⟨yes, ρ, -, h⟩ := Dialogue.run_bind_eq_ok.mp h
  split at h
  · obtain ⟨written, hput, hpath⟩ := Dialogue.run_map_eq_ok.mp h
    obtain rfl := Option.some.inj hpath
    obtain ⟨files, answer, hjudge⟩ := Dialogue.put_accepted hput
    obtain ⟨name, hcheck, hne, hslash, hsave⟩ := judgeNewName_accepted hjudge
    exact ⟨name, files, hcheck, hne, hslash, hsave⟩
  · cases (Dialogue.run_pure_eq_ok.mp h).1

/-- A run that tells where its answers are has saved them under a valid name. -/
theorem collect_saved {signature : Signature} {overrides : Arguments}
    (hsaves : s.enableSaves = true) {c : Collection} {path : String} {σ τ : Session}
    (h : (s.collect signature overrides).run σ = .ok c τ) (hpath : c.savedTo = some path) :
    ∃ name files, Filename.check (.str name) = .ok name ∧ name ≠ "" ∧ '/' ∉ name.toList
      ∧ (s.store signature).save files name ⟨c.tokens⟩ = (.ok path, τ.files) := by
  unfold collect at h
  rw [if_pos hsaves] at h
  obtain ⟨⟨restored, restoredFrom⟩, ρ, -, h⟩ := Dialogue.run_bind_eq_ok.mp h
  obtain ⟨c', ρ', -, h⟩ := Dialogue.run_bind_eq_ok.mp h
  rw [if_pos hsaves] at h
  obtain ⟨written, ρ'', hsave, h⟩ := Dialogue.run_bind_eq_ok.mp h
  obtain ⟨rfl, rfl⟩ := Dialogue.run_pure_eq_ok.mp h
  obtain rfl : written = some path := hpath
  exact save_saved hsave

/-! ### Loading again -/

/-- A fitting value is loaded from its answer, or from the default if there is none. -/
theorem loadParameter_fits_again {saved : Saved} {p : Parameter} {g : Given} (h : g.Fits s p)
    (hsaved : saved.get? p.name = g.token) : s.loadParameter saved p = .ok (some g) := by
  obtain ⟨v, token⟩ := g
  unfold loadParameter
  rw [hsaved]
  cases token with
  | none =>
    have hdefault : p.default = some v := h.default rfl
    simp [hdefault]
  | some token =>
    -- The answer was trimmed before it was saved, so trimming it again leaves it as it is.
    obtain ⟨-, htrimmed, heval⟩ := h.token token rfl
    have haccepted : p.type.accepts v = true := h.accepted
    have hload : s.loadAnswer p token = .ok ⟨v, some token⟩ := by
      unfold loadAnswer
      dsimp only at heval ⊢
      rw [heval, htrimmed]
      simp [haccepted]
    simp [hload]

/-- The values that are restored: those of parameters which are not internal. -/
def restorable (gs : Givens) : List (String × Given) :=
  (gs.filter fun (p, _) => !p.isInternal).map fun (p, g) => (p.name, g)

/-- Fitting values are loaded again from their answers. -/
theorem loadAll_saved {overrides : Arguments} {saved : Saved} {params : List Parameter}
    {gs : Givens}
    (hkeys : gs.map (·.1) = params.filter (fun p => !overrides.contains p.name))
    (hload : ∀ p g, (p, g) ∈ gs → p.isInternal = false → s.loadParameter saved p = .ok (some g)) :
    s.loadAll overrides saved params = .ok (restorable gs) := by
  induction params generalizing gs with
  | nil =>
    obtain rfl : gs = [] := by simpa using hkeys
    rfl
  | cons p params ih =>
    rw [loadAll]
    by_cases hoverride : overrides.contains p.name = true
    · rw [List.filter_cons_of_neg (by simp [hoverride])] at hkeys
      rw [if_pos (by simp [hoverride])]
      exact ih hkeys hload
    · rw [List.filter_cons_of_pos (by simpa using hoverride)] at hkeys
      cases gs with
      | nil => cases hkeys
      | cons pg gs =>
        obtain ⟨q, g⟩ := pg
        obtain ⟨rfl, htail⟩ := List.cons.inj hkeys
        have hrest := ih htail fun p' g' hmem => hload p' g' (List.mem_cons_of_mem _ hmem)
        -- Nothing is loaded for an internal parameter, and it is not among the restorable ones.
        cases hinternal : q.isInternal with
        | true =>
          rw [if_pos (by simp), hrest]
          simp [restorable, hinternal]
        | false =>
          rw [if_neg (by simp [hoverride]), hload q g (by simp) hinternal, hrest]
          simp [restorable, hinternal]
          rfl

/-- What can be restored is found under the name of its parameter. -/
theorem lookup_restorable {gs : Givens} (hdistinct : ((gs.map (·.1)).map (·.name)).Nodup)
    {p : Parameter} {g : Given} (hmem : (p, g) ∈ gs) (hinternal : p.isInternal = false) :
    (restorable gs).lookup p.name = some g := by
  apply Keyed.lookup_of_mem
  · have hkeys : Keyed.keys (restorable gs)
        = ((gs.filter fun (p, _) => !p.isInternal).map (·.1)).map (·.name) := by
      simp [Keyed.keys, restorable, Function.comp_def]
    rw [hkeys]
    exact hdistinct.sublist ((List.filter_sublist.map _).map _)
  · exact List.mem_map.mpr ⟨(p, g), List.mem_filter.mpr ⟨hmem, by simp [hinternal]⟩, rfl⟩

/-- With all values restored, nothing is asked. -/
theorem collectFrom_restored {function : String} {overrides : Arguments}
    {restored : List (String × Given)} {params : List Parameter} {gs : Givens}
    (hkeys : gs.map (·.1) = params.filter (fun p => !overrides.contains p.name))
    (hone : ∀ p g, (p, g) ∈ gs → s.collectOne function restored p = pure (some g))
    (c : Collection) :
    s.collectFrom function overrides restored params c = pure (c.addAll gs) := by
  -- The induction is on the parameters, and the values given run along those that are not
  -- overridden.
  induction params generalizing gs c with
  | nil =>
    obtain rfl : gs = [] := by simpa using hkeys
    rfl
  | cons p params ih =>
    rw [collectFrom]
    by_cases hoverride : overrides.contains p.name = true
    · rw [List.filter_cons_of_neg (by simp [hoverride])] at hkeys
      rw [if_pos hoverride]
      exact ih hkeys hone c
    · rw [List.filter_cons_of_pos (by simpa using hoverride)] at hkeys
      cases gs with
      | nil => cases hkeys
      | cons pg gs =>
        obtain ⟨q, g⟩ := pg
        obtain ⟨rfl, htail⟩ := List.cons.inj hkeys
        rw [if_neg hoverride, hone q g (by simp), pure_bind]
        exact ih htail (fun p' g' hmem => hone p' g' (List.mem_cons_of_mem _ hmem)) _

/-- An internal parameter has its default, another one what has been restored for it. -/
theorem collectOne_fits_again {function : String} {restored : List (String × Given)}
    {p : Parameter} {g : Given} (h : g.Fits s p)
    (hrestored : p.isInternal = false → restored.lookup p.name = some g) :
    s.collectOne function restored p = pure (some g) := by
  unfold collectOne
  cases hinternal : p.isInternal with
  | true =>
    obtain ⟨v, token⟩ := g
    cases token with
    | some token =>
      -- an internal parameter is never asked for, so it has no answer
      have hasked := h.asked rfl
      rw [hinternal] at hasked
      cases hasked
    | none =>
      have hdefault : p.default = some v := h.default rfl
      simp [hdefault]
  | false => simp [hrestored hinternal]

/-! ### The second run -/

/-- An answer that has a value is accepted with it, whatever the question. -/
theorem read_evaluate (q : Question) {answer : String} {v : Value}
    (h : Answer.evaluate s.functions answer = .ok v) :
    s.read q answer = .accepted ⟨v, some (trimmed answer)⟩ := by
  have hne := Answer.trimmed_ne_empty_of_evaluate h
  have hattempt : Answer.attempt s.functions s.reportTime (trimmed answer) = .value v := by
    rw [Answer.attempt, Answer.evaluate_trimmed, h]
  unfold read
  simp [hne, hattempt]

/-- An answer with a value of the declared type is accepted with its token. -/
theorem judge_evaluate {q : Question} {answer : String} {v : Value}
    (h : Answer.evaluate s.functions answer = .ok v) (htype : q.type.accepts v = true) :
    s.judge q answer = .accepted ⟨v, some (trimmed answer)⟩ := by
  rw [judge, read_evaluate q h, Judgment.bind]
  simp [htype]

/-- Other answers are refused before a question is answered. -/
def Refused {α : Type} (judge : String → Judgment α) (answers : List String) : Prop :=
  ∀ answer ∈ answers, ∃ report, judge answer = .refused report

/-- A question by yes or no, answered after others that are refused. -/
theorem confirm_run {q : Question} (hq : q.isParameter = false) (htype : q.type = .bool)
    {b : Bool} {wrong : List String} {answer : String} {rest : List String} {σ : Session}
    (hσ : σ.answers = wrong ++ answer :: rest) (hwrong : Refused (s.judge q) wrong)
    (hanswer : Answer.evaluate s.functions answer = .ok (.bool b)) :
    ∃ τ, (s.confirm q).run σ = .ok b τ ∧ τ.answers = rest ∧ σ.Silent τ := by
  have hjudge : s.judge q answer = .accepted ⟨.bool b, some (trimmed answer)⟩ :=
    judge_evaluate hanswer (by rw [htype]; rfl)
  obtain ⟨τ, hrun, hτ, hsilent⟩ : ∃ τ, (s.ask q).run σ = .ok ⟨.bool b, some (trimmed answer)⟩ τ
      ∧ τ.answers = rest ∧ σ.Silent τ := by
    apply Dialogue.put_run hq hσ
    · intro x hx
      obtain ⟨report, hreport⟩ := hwrong x hx
      exact ⟨report, by rw [hreport]⟩
    · rw [hjudge]
  refine ⟨τ, ?_, hτ, hsilent⟩
  rw [confirm, Dialogue.run_bind_eq_ok]
  exact ⟨_, τ, hrun, Dialogue.run_pure_eq_ok.mpr ⟨rfl, rfl⟩⟩

/-- The question for a saved configuration, with those that are there. -/
def savedNameQuestion (s : Setup) (signature : Signature) (files : FileTree) : Question :=
  let names := (s.store signature).list files
  Question.savedName signature.name (names.headD "") names

/-- What becomes of an answer to that question. -/
def judgeRestored (s : Setup) (signature : Signature) (files : FileTree) (answer : String) :
    Judgment String :=
  let names := (s.store signature).list files
  s.judgeSavedName (s.store signature) names (s.savedNameQuestion signature files) files answer

/-- Answers that restore a configuration and save nothing.  Each question may first be answered by
    others, which are refused. -/
def RestoringAnswers (s : Setup) (signature : Signature) (files : FileTree) (name : String)
    (answers : List String) : Prop :=
  ∃ wrong yes wrong' choice wrong'' no rest,
    answers = wrong ++ yes :: (wrong' ++ choice :: (wrong'' ++ no :: rest))
      ∧ Refused (s.judge (.restore signature.name)) wrong
      ∧ Answer.evaluate s.functions yes = .ok (.bool true)
      ∧ Refused (s.judgeRestored signature files) wrong'
      ∧ (Answer.evaluate s.functions choice = .ok (.str name)
        ∨ (trimmed choice = "" ∧ (s.store signature).IsLatest files name))
      ∧ Refused (s.judge (.save signature.name)) wrong''
      ∧ Answer.evaluate s.functions no = .ok (.bool false)

/-- The name of a configuration that is kept is accepted, and so is a blank answer if it is the
    latest one. -/
theorem judgeRestored_accepted {signature : Signature} {files : FileTree} {name answer : String}
    {saved : Saved} (hcheck : Filename.check (.str name) = .ok name)
    (hkeeps : (s.store signature).Keeps files name saved)
    (hanswer : Answer.evaluate s.functions answer = .ok (.str name)
      ∨ (trimmed answer = "" ∧ (s.store signature).IsLatest files name)) :
    s.judgeRestored signature files answer = .accepted name := by
  have hread : ∃ token, s.read (s.savedNameQuestion signature files) answer
      = .accepted ⟨.str name, token⟩ := by
    rcases hanswer with heval | ⟨hblank, hlatest⟩
    · exact ⟨_, read_evaluate _ heval⟩
    · have hhead := Store.head_list hlatest
      -- The default of the question is the name that is listed first, and that is the latest.
      have hdefault : (s.savedNameQuestion signature files).default = some (.str name) := by
        cases hlist : (s.store signature).list files with
        | nil => rw [hlist] at hhead; cases hhead
        | cons latest others =>
          rw [hlist] at hhead
          obtain rfl := Option.some.inj hhead
          simp [savedNameQuestion, Question.savedName, Question.ofSession, hlist]
      refine ⟨none, ?_⟩
      unfold read
      simp [hblank, hdefault]
  obtain ⟨token, hread⟩ := hread
  have hlisted := hkeeps.listed
  have hfile := hkeeps.isFile
  simp [judgeRestored, judgeSavedName, readName, hread, Judgment.bind, hcheck, hlisted, hfile]

/-- What has been saved is loaded. -/
theorem tryLoad_run {signature : Signature} {overrides : Arguments} {name : String} {saved : Saved}
    {restored : List (String × Given)} {σ : Session}
    (hkeeps : (s.store signature).Keeps σ.files name saved)
    (hload : s.loadAll overrides saved signature.params = .ok restored) :
    (s.tryLoad signature overrides name).run σ = .ok (restored, some name) σ := by
  have hall : s.load signature overrides (s.store signature) σ.files name = .ok restored := by
    rw [load, hkeeps.restored]
    exact hload
  rw [tryLoad, Dialogue.run_bind_eq_ok]
  refine ⟨σ.files, σ, Dialogue.run_files_eq_ok.mpr ⟨rfl, rfl⟩, ?_⟩
  rw [hall]
  exact Dialogue.run_pure_eq_ok.mpr ⟨rfl, rfl⟩

/-- A configuration that is kept is restored if the user asks for it. -/
theorem restore_run {signature : Signature} {overrides : Arguments} {name : String}
    {saved : Saved} {restored : List (String × Given)} {wrong wrong' rest : List String}
    {yes choice : String} {σ : Session}
    (hσ : σ.answers = wrong ++ yes :: (wrong' ++ choice :: rest))
    (hwrong : Refused (s.judge (.restore signature.name)) wrong)
    (hyes : Answer.evaluate s.functions yes = .ok (.bool true))
    (hwrong' : Refused (s.judgeRestored signature σ.files) wrong')
    (hchoice : s.judgeRestored signature σ.files choice = .accepted name)
    (hkeeps : (s.store signature).Keeps σ.files name saved)
    (hload : s.loadAll overrides saved signature.params = .ok restored) :
    ∃ τ, (s.restore signature overrides).run σ = .ok (restored, some name) τ
      ∧ τ.answers = rest ∧ σ.Silent τ := by
  obtain ⟨ρ, hconfirm, hρ, hsilent⟩ :=
    confirm_run (q := .restore signature.name) rfl rfl hσ hwrong hyes
  -- Each question leaves the files as they are, so what is known of them is carried along.
  rw [← hsilent.files] at hwrong' hchoice hkeeps
  have hjudge (answer : String) : s.judgeRestored signature ρ.files answer
      = s.judgeSavedName (s.store signature) ((s.store signature).list ρ.files)
        (s.savedNameQuestion signature ρ.files) ρ.files answer := rfl
  obtain ⟨τ, hput, hτ, hsilent'⟩ : ∃ τ,
      (Dialogue.put (s.savedNameQuestion signature ρ.files) fun files answer =>
        (s.judgeSavedName (s.store signature) ((s.store signature).list ρ.files)
          (s.savedNameQuestion signature ρ.files) files answer, files)).run ρ = .ok name τ
      ∧ τ.answers = rest ∧ ρ.Silent τ := by
    apply Dialogue.put_run rfl hρ
    · intro x hx
      obtain ⟨report, hreport⟩ := hwrong' x hx
      exact ⟨report, by rw [← hjudge, hreport]⟩
    · rw [← hjudge, hchoice]
  refine ⟨τ, ?_, hτ, hsilent.trans hsilent'⟩
  rw [← hsilent'.files] at hkeeps
  rw [restore, Dialogue.run_bind_eq_ok]
  refine ⟨σ.files, σ, Dialogue.run_files_eq_ok.mpr ⟨rfl, rfl⟩, ?_⟩
  rw [← hsilent.files]
  have hlisted := hkeeps.listed
  rw [hsilent'.files] at hlisted
  rw [savedNameQuestion] at hput
  -- The questions are put only when there is something to restore, which `hlisted` gives.
  generalize (s.store signature).list ρ.files = names at hlisted hput
  cases names with
  | nil => cases hlisted
  | cons latest others =>
    rw [Dialogue.run_bind_eq_ok]
    refine ⟨true, ρ, hconfirm, ?_⟩
    rw [if_pos rfl, Dialogue.run_bind_eq_ok]
    exact ⟨name, τ, hput, tryLoad_run hkeeps hload⟩

/-- Nothing is saved if the user does not ask for it. -/
theorem save_run {signature : Signature} {wrong rest : List String} {no : String} {σ : Session}
    (c : Collection) (hσ : σ.answers = wrong ++ no :: rest)
    (hwrong : Refused (s.judge (.save signature.name)) wrong)
    (hno : Answer.evaluate s.functions no = .ok (.bool false)) :
    ∃ τ, (s.save signature c).run σ = .ok none τ ∧ σ.Silent τ := by
  obtain ⟨τ, hconfirm, -, hsilent⟩ :=
    confirm_run (q := .save signature.name) rfl rfl hσ hwrong hno
  refine ⟨τ, ?_, hsilent⟩
  rw [save, Dialogue.run_bind_eq_ok]
  exact ⟨false, τ, hconfirm, Dialogue.run_pure_eq_ok.mpr ⟨rfl, rfl⟩⟩

/-- **Restoring.** If answers that give fitting values are kept under a name, a run of questions
    that restores them ends with these values, and puts no question for a parameter. -/
theorem collect_restored {signature : Signature} (hwf : signature.WellFormed)
    (hsaves : s.enableSaves = true) {overrides : Arguments} {gs : Givens}
    (hkeys : gs.map (·.1) = signature.params.filter (fun p => !overrides.contains p.name))
    (hfits : ∀ p g, (p, g) ∈ gs → g.Fits s p) {name : String}
    (hcheck : Filename.check (.str name) = .ok name) {σ : Session}
    (hkeeps : (s.store signature).Keeps σ.files name ⟨gs.tokens⟩)
    (hanswers : s.RestoringAnswers signature σ.files name σ.answers) :
    ∃ c τ, (s.collect signature overrides).run σ = .ok c τ ∧ σ.Silent τ
      ∧ c.restoredFrom = some name ∧ c.Holds gs := by
  have hdistinct : ((gs.map (·.1)).map (·.name)).Nodup := by
    rw [hkeys]
    exact hwf.distinct.sublist (List.filter_sublist.map _)
  -- All that was saved is read back, and all that was read back answers its own question.
  have hload : s.loadAll overrides ⟨gs.tokens⟩ signature.params = .ok (restorable gs) := by
    apply loadAll_saved hkeys
    intro p g hmem _
    exact loadParameter_fits_again (hfits p g hmem) (Givens.lookup_tokens hdistinct hmem)
  have hone (p : Parameter) (g : Given) (hmem : (p, g) ∈ gs) :
      s.collectOne signature.name (restorable gs) p = pure (some g) :=
    collectOne_fits_again (hfits p g hmem) fun hinternal =>
      lookup_restorable hdistinct hmem hinternal
  obtain ⟨wrong, yes, wrong', choice, wrong'', no, rest, hσ, hwrong, hyes, hwrong', hchoice,
    hwrong'', hno⟩ := hanswers
  obtain ⟨ρ, hrestore, hρ, hsilent⟩ := restore_run hσ hwrong hyes hwrong'
    (judgeRestored_accepted hcheck hkeeps hchoice) hkeeps hload
  obtain ⟨τ, hsave, hsilent'⟩ :=
    save_run ((Collection.start (some name)).addAll gs) hρ hwrong'' hno
  have hholds : ((Collection.start (some name)).addAll gs).Holds gs :=
    Collection.addAll_holds (Collection.start_holds _) hdistinct
  refine ⟨{ (Collection.start (some name)).addAll gs with savedTo := none }, τ, ?_,
    hsilent.trans hsilent', (Collection.addAll_restoredFrom _ gs).1, hholds.arguments,
    hholds.tokens⟩
  rw [collect, if_pos hsaves, Dialogue.run_bind_eq_ok]
  refine ⟨_, ρ, hrestore, ?_⟩
  -- With everything restored there is nothing left to ask but whether to save.
  dsimp only
  rw [collectFrom_restored hkeys hone, pure_bind, if_pos hsaves, Dialogue.run_bind_eq_ok]
  exact ⟨none, τ, hsave, Dialogue.run_pure_eq_ok.mpr ⟨rfl, rfl⟩⟩

end Setup

/-- **Saving and restoring.** Whatever a first run of questions has saved under a name, a second one
    that restores it collects the same values and answers, and puts no question for a parameter.
    The first run may itself have restored something.  A name does not begin with a slash, since
    its file is in the directory of the store. -/
theorem Setup.collect_again {function : String} {steps : List Signature.Step}
    {signature : Signature} (hbuild : Signature.build function steps = .ok signature)
    (hslash : '/' ∉ function.toList) {s : Setup} (hsaves : s.enableSaves = true)
    {overrides : Arguments} {before after : Session} {c : Collection}
    (hfirst : (s.collect signature overrides).run before = .ok c after) {name : String}
    (hname : name.toList.head? ≠ some '/')
    (hsaved : c.savedTo = some ((s.store signature).pathFor name))
    {s' : Setup} (hsaves' : s'.enableSaves = true) (hfunctions : s'.functions = s.functions)
    (hroot : s'.savesRoot = s.savesRoot) {overrides' : Arguments}
    (hoverrides : ∀ key, overrides'.contains key = overrides.contains key) {again : Session}
    (hfiles : again.files = after.files)
    (hanswers : s'.RestoringAnswers signature again.files name again.answers) :
    ∃ c' final, (s'.collect signature overrides').run again = .ok c' final ∧ again.Silent final
      ∧ c'.restoredFrom = some name ∧ c'.arguments = c.arguments ∧ c'.tokens = c.tokens := by
  obtain ⟨hwf, rfl⟩ := Signature.build_wellFormed hbuild
  obtain ⟨gs, hkeys, hfits, hholds⟩ := collect_holds hwf hfirst
  obtain ⟨found, files, hcheck, hne, hfound, hsave⟩ := collect_saved hsaves hfirst hsaved
  -- The run tells the path and not the name, but a path belongs to one name only.
  obtain rfl : name = found := by
    apply Store.pathFor_injective (Store.isBase_below _ _) hname _ (Store.save_path hsave).1
    intro hhead
    exact hfound (List.mem_of_mem_head? hhead)
  have hnodup : (Keyed.keys gs.tokens).Nodup := by
    refine List.Nodup.sublist gs.keys_tokens_sublist ?_
    rw [hkeys]
    exact hwf.distinct.sublist (List.filter_sublist.map _)
  have hstore : s'.store signature = s.store signature := by rw [store, store, hroot]
  have hkeeps : (s'.store signature).Keeps again.files name ⟨gs.tokens⟩ := by
    rw [hholds.tokens] at hsave
    rw [hstore, hfiles]
    exact Store.save_keeps (Store.isBase_below _ _) hwf.named hslash hne hfound hnodup hsave
  have hkeys' : gs.map (·.1) = signature.params.filter (fun p => !overrides'.contains p.name) := by
    simpa only [hoverrides] using hkeys
  have hfits' (p : Parameter) (g : Given) (hmem : (p, g) ∈ gs) : g.Fits s' p :=
    (hfits p g hmem).of_functions_eq hfunctions
  obtain ⟨c', final, hagain, hsilent, hrestored, hholds'⟩ :=
    collect_restored hwf hsaves' hkeys' hfits' hcheck hkeeps hanswers
  refine ⟨c', final, hagain, hsilent, hrestored, ?_, hholds'.tokens.trans hholds.tokens.symm⟩
  have hentries := hholds'.arguments.trans hholds.arguments.symm
  calc c'.arguments = ⟨c'.arguments.entries⟩ := rfl
    _ = c.arguments := by rw [hentries]

/-- An entered and a default parameter are saved and restored. -/
theorem Setup.collect_again_entered :
    ∃ signature c after c' final,
      Signature.build "f" [.param "a" "str" none, .param "b" "int" (some (.int 2)),
        .param "_k" "int" (some (.int 1))] = .ok signature
      ∧ (Setup.collect ⟨[], ⟨0⟩, true, "."⟩ signature Arguments.empty).run
          ⟨[" 'x' ", "", "True", "'n'"], ⟨[], 0⟩, []⟩ = .ok c after
      ∧ c.savedTo = some "./f-saves/n.f"
      ∧ (Setup.collect ⟨[], ⟨0⟩, true, "."⟩ signature Arguments.empty).run
          ⟨["True", "'n'", "False"], after.files, []⟩ = .ok c' final
      ∧ final.questions.all (fun q => !q.isParameter) = true
      ∧ c'.restoredFrom = some "n" ∧ c'.arguments = c.arguments ∧ c'.tokens = c.tokens := by
  obtain ⟨signature, hsignature⟩ : ∃ signature : Signature, signature = ⟨"f", none,
      [⟨"a", .str, none, none⟩, ⟨"b", .int, some (.int 2), none⟩,
        ⟨"_k", .int, some (.int 1), none⟩]⟩ := ⟨_, rfl⟩
  have hbuild : Signature.build "f" [.param "a" "str" none, .param "b" "int" (some (.int 2)),
      .param "_k" "int" (some (.int 1))] = .ok signature := by
    rw [hsignature]
    rfl
  obtain ⟨c, after, hfirst, hsaved⟩ : ∃ c after,
      (Setup.collect ⟨[], ⟨0⟩, true, "."⟩ signature Arguments.empty).run
        ⟨[" 'x' ", "", "True", "'n'"], ⟨[], 0⟩, []⟩ = .ok c after
      ∧ c.savedTo = some "./f-saves/n.f" := by
    rw [hsignature]
    exact ⟨_, _, rfl, rfl⟩
  have hpath : (Setup.store ⟨[], ⟨0⟩, true, "."⟩ signature).pathFor "n" = "./f-saves/n.f" := by
    rw [hsignature]
    rfl
  have hfiles : (⟨["True", "'n'", "False"], after.files, []⟩ : Session).files = after.files := rfl
  have hanswers : Setup.RestoringAnswers ⟨[], ⟨0⟩, true, "."⟩ signature after.files "n"
      ["True", "'n'", "False"] :=
    ⟨[], "True", [], "'n'", [], "False", [], rfl, by simp [Setup.Refused], rfl,
      by simp [Setup.Refused], Or.inl rfl, by simp [Setup.Refused], rfl⟩
  obtain ⟨c', final, hagain, ⟨-, more, hevents, hmore⟩, hrestored, hsame⟩ :=
    Setup.collect_again hbuild (by decide) rfl hfirst (by decide)
      (hsaved.trans (congrArg some hpath.symm)) rfl rfl rfl (fun _ => rfl) hfiles hanswers
  refine ⟨signature, c, after, c', final, hbuild, hfirst, hsaved, hagain, ?_, hrestored, hsame⟩
  simp only [List.nil_append] at hevents
  rw [List.all_eq_true]
  intro q hq
  obtain ⟨event, hevent, hasked⟩ := List.mem_filterMap.mp hq
  rw [hevents] at hevent
  cases event <;> cases hasked
  simp [hmore q hevent]

end Questionnaire
