import Questionnaire.Proofs.Answer.Literal
import Questionnaire.Proofs.Session.Dialogue
import Questionnaire.Session.Restore

namespace Questionnaire

open Questionnaire.Text (trimmed)

/-!
# Values that fit

* `Given.Fits` — a value with its answer, as a parameter may have it.
* `Setup.ask_fits` — what is entered fits.
* `Setup.loadParameter_fits` — what has been saved fits, if it can be loaded at all.
-/

/-- A value that a parameter may have: it has the declared type, the answer that gave it would give
    it again, and without an answer it is the default. -/
structure Given.Fits (s : Setup) (p : Parameter) (g : Given) : Prop where
  accepted : p.type.accepts g.value = true
  asked : g.token.isSome = true → p.isInternal = false
  token : ∀ token, g.token = some token →
    token ≠ "" ∧ trimmed token = token ∧ Answer.evaluate s.functions token = .ok g.value
  default : g.token = none → p.default = some g.value

/-- A default fits where it is accepted. -/
theorem Given.Fits.ofDefault {s : Setup} {p : Parameter} {v : Value} (h : p.default = some v)
    (haccepted : p.type.accepts v = true) : Given.Fits s p ⟨v, none⟩ where
  accepted := haccepted
  asked := fun hsome => by cases hsome
  token := fun token htoken => by cases htoken
  default := fun _ => h

/-! ### Answers -/

namespace Answer

/-- Blanks around an answer do not matter. -/
theorem evaluate_trimmed (functions : List String) (answer : String) :
    evaluate functions (trimmed answer) = evaluate functions answer := by
  rw [evaluate, evaluate, trimmed, String.toList_ofList, Text.trim_trim]

/-- A blank answer has no value. -/
theorem trimmed_ne_empty_of_evaluate {functions : List String} {answer : String} {v : Value}
    (h : evaluate functions answer = .ok v) : trimmed answer ≠ "" := by
  intro hempty
  rw [← evaluate_trimmed, hempty] at h
  cases h

/-- An answer that is tried and has a value evaluates to it. -/
theorem evaluate_of_attempt {functions : List String} {timeout : Duration} {answer : String}
    {v : Value} (h : attempt functions timeout answer = .value v) :
    evaluate functions answer = .ok v := by
  unfold attempt at h
  split at h
  · cases h
    assumption
  · cases h
  · cases h

/-- A literal has no blanks at its ends. -/
theorem Means.trimmed {cs : List Char} {v : Value} (h : Means cs v) :
    trimmed (String.ofList cs) = String.ofList cs := by
  have hnone : Text.IsGap [] := by simp [Text.IsGap]
  have htrim := Text.trim_padded hnone hnone h.nonempty h.startsFull h.endsFull
  rw [Text.trimmed, String.toList_ofList]
  simpa using congrArg String.ofList htrim

/-- The text of a string has no blanks at its ends. -/
theorem trimmed_text_str (s : String) :
    Text.trimmed (Value.text (.str s)) = Value.text (.str s) := (Means.writtenStr s).trimmed

/-- The text of a string is not blank, for it has quotes. -/
theorem text_str_ne_empty (s : String) : Value.text (.str s) ≠ "" :=
  trimmed_text_str s ▸ trimmed_ne_empty_of_evaluate (evaluate_str [] s)

end Answer

namespace Setup

/-! ### Entered values -/

/-- An answer gives the default if it is blank, and else its value. -/
theorem read_accepted {s : Setup} {q : Question} {answer : String} {g : Given}
    (h : s.read q answer = .accepted g) :
    (trimmed answer = "" ∧ g.token = none ∧ q.default = some g.value)
      ∨ (g.token = some (trimmed answer) ∧ trimmed answer ≠ ""
        ∧ Answer.evaluate s.functions answer = .ok g.value) := by
  -- The two cases of reading: a blank answer takes the default, another one is evaluated.
  unfold read at h
  dsimp only at h
  split at h
  · rename_i hblank
    split at h
    · rename_i v hdefault
      cases h
      exact Or.inl ⟨by simpa using hblank, rfl, hdefault⟩
    · cases h
  · rename_i hfull
    split at h
    · rename_i v hattempt
      cases h
      refine Or.inr ⟨rfl, by simpa using hfull, ?_⟩
      rw [← Answer.evaluate_trimmed]
      exact Answer.evaluate_of_attempt hattempt
    · cases h
    · cases h

/-- An accepted answer is read, and its value has the declared type, unless it is the default. -/
theorem judge_accepted {s : Setup} {q : Question} {answer : String} {g : Given}
    (h : s.judge q answer = .accepted g) :
    s.read q answer = .accepted g ∧ (g.token = none ∨ q.type.accepts g.value = true) := by
  obtain ⟨given, hread, hfits⟩ := Judgment.bind_eq_accepted.mp h
  split at hfits
  · rename_i hgiven
    obtain rfl := Judgment.accepted.inj hfits
    exact ⟨hread, by simpa using hgiven⟩
  · cases hfits

/-- What is entered for a parameter fits. -/
theorem ask_fits {s : Setup} {function : String} {p : Parameter} (hinternal : p.isInternal = false)
    (hdefault : ∀ v, p.default = some v → p.type.accepts v = true) {g : Given} {σ τ : Session}
    (h : (s.ask (.ofParameter function p)).run σ = .ok g τ) : g.Fits s p := by
  obtain ⟨files, answer, hanswer⟩ := Dialogue.put_accepted h
  obtain ⟨hread, htype⟩ := judge_accepted (Prod.mk.inj hanswer).1
  -- A blank answer takes the default, whose type the question does not check: the signature did.
  rcases read_accepted hread with ⟨-, hnone, hvalue⟩ | ⟨hsome, hfull, heval⟩
  · refine ⟨hdefault _ hvalue, fun _ => hinternal, fun token htoken => ?_, fun _ => hvalue⟩
    rw [hnone] at htoken
    cases htoken
  · refine ⟨?_, fun _ => hinternal, fun token htoken => ?_, fun hnone => ?_⟩
    · rcases htype with hnone | htype
      · rw [hnone] at hsome
        cases hsome
      · exact htype
    · obtain rfl := Option.some.inj (hsome.symm.trans htoken)
      exact ⟨hfull, Text.trimmed_trimmed answer, (Answer.evaluate_trimmed _ _).trans heval⟩
    · rw [hnone] at hsome
      cases hsome

/-! ### Saved values -/

/-- The value of a saved answer fits.  A bare text has been replaced by the text of a string. -/
theorem loadAnswer_fits {s : Setup} {p : Parameter} (hinternal : p.isInternal = false)
    {answer : String} {g : Given} (h : s.loadAnswer p answer = .ok g) : g.Fits s p := by
  have hfits (v : Value) (token : String) (haccepts : p.type.accepts v = true)
      (hne : token ≠ "") (htrimmed : trimmed token = token)
      (heval : Answer.evaluate s.functions token = .ok v) : Given.Fits s p ⟨v, some token⟩ := by
    refine ⟨haccepts, fun _ => hinternal, fun token' htoken => ?_, fun hnone => by cases hnone⟩
    obtain rfl := Option.some.inj htoken
    exact ⟨hne, htrimmed, heval⟩
  unfold loadAnswer at h
  dsimp only at h
  split at h
  · rename_i v heval
    split at h
    · rename_i haccepts
      obtain rfl := Except.ok.inj h
      exact hfits v _ haccepts (Answer.trimmed_ne_empty_of_evaluate heval)
        (Text.trimmed_trimmed answer) ((Answer.evaluate_trimmed _ _).trans heval)
    · cases h
  · cases h
  · -- The bare text has no value; the text of the string that it is has one.
    split at h
    · rename_i haccepts
      obtain rfl := Except.ok.inj h
      exact hfits _ _ haccepts (Answer.text_str_ne_empty _) (Answer.trimmed_text_str _)
        (Answer.evaluate_str _ _)
    · cases h

/-- What is loaded for a parameter fits it. -/
theorem loadParameter_fits {s : Setup} {saved : Saved} {p : Parameter}
    (hinternal : p.isInternal = false)
    (hdefault : ∀ v, p.default = some v → p.type.accepts v = true) {g : Given}
    (h : s.loadParameter saved p = .ok (some g)) : g.Fits s p := by
  unfold loadParameter at h
  split at h
  · obtain ⟨given, hload, hgiven⟩ := Except.map_eq_ok.mp h
    obtain rfl := Option.some.inj hgiven
    exact loadAnswer_fits hinternal hload
  · obtain ⟨v, hv, rfl⟩ := Option.map_eq_some_iff.mp (Except.ok.inj h)
    exact Given.Fits.ofDefault hv (hdefault v hv)

end Setup

end Questionnaire
