import Questionnaire.Proofs.Answer.Numeral
import Questionnaire.Proofs.Expression.Data

namespace Questionnaire.Answer

/-!
# Values as answers

The text of a value can be given as an answer, and it means the value again.  There are two
exceptions: the smallest integer is read as a floating point number, also inside of lists, and a
text that is the name of a function is read as that function.

* `reread` — a value with floating point numbers in the places of the smallest integer.
* `means_written` — the text of a value without functions means that value.
* `IsFunctionName`, `isFunctionName_or_isData` — answers that name functions, and all others.
* `evaluate_text` — what the text of an answer's value is read as, and when it is that value.
-/

/-! ### Values that are read again -/

mutual

/-- What the text of a value means. -/
def reread : Value → Value
  | .int i => rereadInt i
  | .seq items => .seq (rereadItems items)
  | v => v

/-- What the texts of several values mean. -/
def rereadItems : List Value → List Value
  | [] => []
  | v :: vs => reread v :: rereadItems vs

end

/-- The smallest integer occurs in a value. -/
inductive HasSmallest : Value → Prop where
  | int : HasSmallest (.int Int64.minValue)
  | seq {items : List Value} {v : Value} (hv : v ∈ items) (h : HasSmallest v) :
      HasSmallest (.seq items)

/-- An integer has the smallest integer in it if it is that. -/
@[simp] theorem hasSmallest_int {i : Int64} : HasSmallest (.int i) ↔ i = Int64.minValue :=
  ⟨fun | .int => rfl, fun h => h ▸ .int⟩

/-- A tuple has it if one of its items has. -/
@[simp] theorem hasSmallest_seq {items : List Value} :
    HasSmallest (.seq items) ↔ ∃ v ∈ items, HasSmallest v :=
  ⟨fun | .seq hv h => ⟨_, hv, h⟩, fun ⟨_, hv, h⟩ => .seq hv h⟩

/-- An integer is reread as itself unless it is the smallest one. -/
theorem rereadInt_eq_iff {i : Int64} : rereadInt i = .int i ↔ i ≠ Int64.minValue := by
  rw [rereadInt]
  split <;> simp [*]

mutual

/-- A value means itself unless the smallest integer occurs in it. -/
theorem reread_eq_iff : (v : Value) → (reread v = v ↔ ¬ HasSmallest v)
  | .none | .bool _ | .float _ | .str _ | .function _ => by
    rw [reread]
    · exact iff_of_true rfl nofun
    all_goals nofun
  | .int i => by rw [reread, rereadInt_eq_iff, hasSmallest_int]
  | .seq items => by
    rw [reread, Value.seq.injEq, rereadItems_eq_iff items, hasSmallest_seq]
    simp

/-- Items are reread as themselves unless one of them has the smallest integer. -/
theorem rereadItems_eq_iff : (items : List Value) →
    (rereadItems items = items ↔ ∀ v ∈ items, ¬ HasSmallest v)
  | [] => by simp [rereadItems]
  | v :: vs => by
    rw [rereadItems, List.cons.injEq, reread_eq_iff v, rereadItems_eq_iff vs, List.forall_mem_cons]

end

/-! ### Texts of values -/

/-- What holds of values and those that are reread holds item by item. -/
theorem forall₂_rereadItems {p : Value → Value → Prop} {items : List Value}
    (h : ∀ v ∈ items, p v (reread v)) : List.Forall₂ p items (rereadItems items) := by
  induction items with
  | nil => exact .nil
  | cons v vs ih => exact .cons (h v (by simp)) (ih fun w hw => h w (by simp [hw]))

/-- The text of a value means the value, with the smallest integer read as a floating point
    number. -/
theorem means_written {v : Value} (h : v.IsData) : Means v.written (reread v) := by
  induction h with
  | none => exact Means.none
  | bool b => exact Means.bool b
  | int i => exact means_writtenInt i
  | float x => exact means_token x
  | str s => exact Means.writtenStr s
  | seq _ ih => exact means_writtenList (forall₂_rereadItems ih)

/-! ### Names of functions -/

/-- A text that an answer uses to name a known function. -/
def IsFunctionName (functions : List String) (name : String) : Prop :=
  isIdentifier name.toList ∧ functions.contains name

/-- Whether a name is that of a function can be decided. -/
instance (functions : List String) (name : String) : Decidable (IsFunctionName functions name) :=
  inferInstanceAs (Decidable (_ ∧ _))

/-- An identifier has letters, digits and underscores. -/
theorem isAlphanum_of_isIdentifier {cs : List Char} (h : isIdentifier cs = true) :
    ∀ c ∈ cs, c.isAlphanum = true ∨ c = '_' := by
  cases cs with
  | nil => simp
  | cons c rest =>
    obtain ⟨hc, hrest⟩ : (c.isAlpha = true ∨ c = '_') ∧
        ∀ d ∈ rest, d.isAlphanum = true ∨ d = '_' := by simpa [isIdentifier] using h
    exact List.forall_mem_cons.mpr ⟨hc.imp_left fun hc => by simp [Char.isAlphanum, hc], hrest⟩

/-- An identifier has no blanks. -/
theorem isBlank_of_isIdentifier {cs : List Char} (h : isIdentifier cs = true) :
    ∀ c ∈ cs, Text.isBlank c = false := by
  intro c hc
  rcases isAlphanum_of_isIdentifier h c hc with hc | rfl
  · rw [Text.isAlphanum_iff] at hc
    simp [Text.isBlank]
    omega
  · decide

/-- An answer that is the name of a known function is that function. -/
theorem evaluate_functionName {functions : List String} {name : String}
    (h : IsFunctionName functions name) : evaluate functions name = .ok (.function name) := by
  have hblank := isBlank_of_isIdentifier h.1
  have hnone : Text.IsGap [] := by simp [Text.IsGap]
  have hne : name.toList ≠ [] := by
    intro hnil
    have hname := h.1
    rw [hnil] at hname
    cases hname
  have htrim : Text.trim name.toList = name.toList := by
    have hpadded := Text.trim_padded hnone hnone hne (Text.startsFull_of_mem hblank)
      (Text.startsFull_of_mem fun c hc => hblank c (List.mem_reverse.mp hc))
    simpa using hpadded
  have htrimmed : evaluateTrimmed functions name.toList = .ok (.function name) := by
    simp [evaluateTrimmed, h.1, List.contains_iff_mem.mp h.2]
  rw [evaluate, htrim]
  split
  · next hnil => exact absurd hnil hne
  · exact htrimmed

/-- The value of an answer is a known function, or no function occurs in it. -/
theorem isFunctionName_or_isData {functions : List String} {answer : String} {v : Value}
    (h : evaluate functions answer = .ok v) :
    (∃ name, IsFunctionName functions name ∧ v = .function name) ∨ v.IsData := by
  rw [evaluate] at h
  split at h
  · cases h
  · next cs _ =>
    simp only [evaluateTrimmed] at h
    split at h
    · next hname =>
      cases h
      exact .inl ⟨_, by simpa [IsFunctionName] using hname, rfl⟩
    · split at h
      · cases h
      · exact .inr (Expression.yieldsData_evaluate _ v (Except.mapError_eq_ok.mp h))

/-! ### Answers -/

/-- The text of data is read as what it means, unless it is the name of a function. -/
theorem evaluate_text_of_isData {v : Value} (h : v.IsData) {functions : List String}
    (hname : ¬ IsFunctionName functions v.text) : evaluate functions v.text = .ok (reread v) := by
  have hnone : Text.IsGap [] := by simp [Text.IsGap]
  have hother : (isIdentifier v.written && functions.contains (String.ofList v.written))
      = false := by
    simpa [IsFunctionName, Value.text] using hname
  have hvalue := (means_written h).evaluate hnone hnone hother
  simpa [Value.text] using hvalue

/-- **Values as answers.** The text of the value of an answer is read as that value exactly when the
    smallest integer does not occur in it and when it is the name of no function other than the
    value itself.  In every case it is read as that function, if there is one, or as the value with
    floating point numbers in the places of the smallest integer. -/
theorem evaluate_text {functions : List String} {answer : String} {v : Value}
    (h : evaluate functions answer = .ok v) :
    (evaluate functions v.text = .ok v
        ↔ ¬ HasSmallest v ∧ (IsFunctionName functions v.text → v = .function v.text))
      ∧ evaluate functions v.text
        = .ok (if IsFunctionName functions v.text then .function v.text else reread v) := by
  -- What the text is read as comes first; the equivalence follows from it.
  have hreads : evaluate functions v.text
      = .ok (if IsFunctionName functions v.text then .function v.text else reread v) := by
    split
    · next hname => exact evaluate_functionName hname
    · next hname =>
      obtain ⟨name, hfunction, rfl⟩ | hdata := isFunctionName_or_isData h
      · exact absurd (by simpa [Value.text, Value.written] using hfunction) hname
      · exact evaluate_text_of_isData hdata hname
  refine ⟨?_, hreads⟩
  rw [hreads, Except.ok.injEq]
  split
  · next hname =>
    refine ⟨fun hv => ⟨?_, fun _ => hv.symm⟩, fun hv => (hv.2 hname).symm⟩
    rw [← hv]
    intro hsmallest
    cases hsmallest
  · next hname => simp [reread_eq_iff, hname]

/-- Blanks are not read back, but the value is. -/
theorem evaluate_text_negative :
    evaluate ["None"] "- 5" = .ok (.int (-5)) ∧ evaluate ["None"] "-5" = .ok (.int (-5)) := by
  have hvalue : evaluate ["None"] "- 5" = .ok (.int (-5)) := rfl
  have hname : ¬ IsFunctionName ["None"] (Value.int (-5)).text := by decide
  exact ⟨hvalue, (evaluate_text hvalue).1.mpr ⟨by simp, fun h => absurd h hname⟩⟩

/-- The smallest integer cannot be typed, but it is the value of a difference. -/
theorem evaluate_smallest :
    evaluate [] "-9223372036854775807 - 1" = .ok (.int Int64.minValue) := by
  have htokens : Expression.tokensOf "-9223372036854775807 - 1".toList =
      .ok [.minus, .constant (.int 9223372036854775807), .minus, .constant (.int 1)] := rfl
  have htree : Expression.tree
      [.minus, .constant (.int 9223372036854775807), .minus, .constant (.int 1)] =
        .ok (.over .root [] (.over .subtract
          [.over .negate [] (.bare (.constant (.int 9223372036854775807)))]
          (.bare (.constant (.int 1))))) := rfl
  -- Each operator is computed on its own; the whole tree at once would be too much for `rfl`.
  have hconstant (v : Value) : Expression.apply (.constant v) [] = .ok v := rfl
  have hnegate : Expression.apply .negate [.int 9223372036854775807] =
      .ok (.int (-9223372036854775807)) := rfl
  have hsubtract : Expression.apply .subtract [.int (-9223372036854775807), .int 1] =
      .ok (.int Int64.minValue) := rfl
  have hroot (v : Value) : Expression.apply .root [v] = .ok v := rfl
  have hvalue : Expression.evaluate "-9223372036854775807 - 1".toList =
      .ok (.int Int64.minValue) := by
    refine Expression.evaluate_of_tokens htokens htree ?_
    simp [Expression.evalTree, Expression.evalEarlier, Except.bind_eq_ok, hconstant, hnegate,
      hsubtract, hroot]
  have hexpression : expression? "-9223372036854775807 - 1".toList =
      some "-9223372036854775807 - 1".toList := rfl
  show evaluateTrimmed [] "-9223372036854775807 - 1".toList = _
  simp only [evaluateTrimmed, hexpression, hvalue]
  rfl

/-- Its text is read as a floating point number. -/
theorem evaluate_text_smallest :
    evaluate [] "-9223372036854775807 - 1" = .ok (.int Int64.minValue)
      ∧ evaluate [] (Value.text (.int Int64.minValue)) ≠ .ok (.int Int64.minValue) := by
  refine ⟨evaluate_smallest, ?_⟩
  have hname : ¬ IsFunctionName [] (Value.text (.int Int64.minValue)) := by simp [IsFunctionName]
  rw [evaluate_text_of_isData (.int _) hname]
  nofun

/-- The text of the empty value is read as a function of that name. -/
example : evaluate ["None"] "()" = .ok .none ∧
    evaluate ["None"] (Value.text .none) = .ok (.function "None") := ⟨rfl, rfl⟩

end Questionnaire.Answer
