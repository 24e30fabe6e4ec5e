import Questionnaire.Configuration.Check
import Questionnaire.Proofs.Answer.Written
import Questionnaire.Proofs.Override

namespace Questionnaire

/-!
# Overrides as assignments

A value that a configuration gives to a parameter can be assigned to it as well, by the text of the
value, and the assignment is refused where the configuration is.

* `Json.IsWhole` — JSON without fractions and without the smallest integer.
* `Value.isLiteral_of_json` — what is converted from it is read back from its text.
* `Override.evaluate_resolved` — so is a reference to a function.
* `Override.parse_assignment` — an assignment of such a value is checked like the value itself.
* `Override.parse_configured` — configured overrides and assigned ones agree.
-/

/-- All numbers in a JSON value are integers of 64 bits with a sign, and none of them is the smallest
    one. -/
inductive Json.IsWhole : Json → Prop where
  | null : IsWhole .null
  | bool (b : Bool) : IsWhole (.bool b)
  | int {i : Int64} (h : i ≠ Int64.minValue) : IsWhole (.int i)
  | str (s : String) : IsWhole (.str s)
  | array {items : List Json} (h : ∀ item ∈ items, IsWhole item) : IsWhole (.array items)
  | object {fields : List (String × Json)} (h : ∀ field ∈ fields, IsWhole field.2) :
    IsWhole (.object fields)

/-! ### Converted values -/

namespace Value

/-- A value that is read back from its text, unless that is the name of a function. -/
structure IsLiteral (v : Value) : Prop where
  data : v.IsData
  noSmallest : ¬ Answer.HasSmallest v

/-- A tuple of literals is a literal. -/
theorem isLiteral_seq {items : List Value} (h : ∀ v ∈ items, IsLiteral v) :
    IsLiteral (.seq items) where
  data := .seq fun v hv => (h v hv).data
  noSmallest := by
    rw [Answer.hasSmallest_seq]
    rintro ⟨v, hv, hsmallest⟩
    exact (h v hv).noSmallest hsmallest

mutual

/-- What is converted from JSON with such numbers is read back from its text. -/
theorem isLiteral_of_json : (json : Json) → json.IsWhole → ∀ v, ofJson? json = some v → IsLiteral v
  | .null, _, _, h => by
    cases h
    exact ⟨.none, nofun⟩
  | .bool b, _, _, h => by
    cases h
    exact ⟨.bool b, nofun⟩
  | .int i, .int hi, _, h => by
    cases h
    exact ⟨.int i, by simpa using hi⟩
  | .str s, _, _, h => by
    cases h
    exact ⟨.str s, nofun⟩
  | .array items, .array hitems, _, h => by
    obtain ⟨values, hvalues, rfl⟩ := Option.map_eq_some_iff.mp h
    exact isLiteral_seq (isLiteral_of_jsonItems items hitems values hvalues)

/-- The values of whole numbers and texts are literals, item by item. -/
theorem isLiteral_of_jsonItems : (items : List Json) → (∀ item ∈ items, item.IsWhole) →
    ∀ values, ofJsonItems? items = some values → ∀ v ∈ values, IsLiteral v
  | [], _, _, h => by
    cases h
    simp
  | item :: rest, hwhole, _, h => by
    obtain ⟨hitem, hrest⟩ := List.forall_mem_cons.mp hwhole
    rw [ofJsonItems?] at h
    split at h
    · next value values hvalue hvalues =>
      cases h
      exact List.forall_mem_cons.mpr ⟨isLiteral_of_json item hitem value hvalue,
        isLiteral_of_jsonItems rest hrest values hvalues⟩
    · cases h

end

/-- A digit is no letter. -/
theorem isAlpha_of_isDigit {c : Char} (h : c.isDigit = true) : c.isAlpha = false := by
  have hrange := (Text.isDigit_iff c).mp h
  have hnat : c.val.toNat = c.toNat := rfl
  rw [← Bool.not_eq_true]
  show ¬ (decide (65 ≤ c.val ∧ c.val ≤ 90) || (97 ≤ c.val && c.val ≤ 122)) = true
  simp only [Bool.or_eq_true, Bool.and_eq_true, decide_eq_true_eq, UInt32.le_iff_toNat_le]
  show ¬ (65 ≤ c.val.toNat ∧ c.val.toNat ≤ 90 ∨ 97 ≤ c.val.toNat ∧ c.val.toNat ≤ 122)
  omega

/-- The text of an integer starts with a digit or a sign. -/
theorem isIdentifier_writtenInt (i : Int64) : Answer.isIdentifier (writtenInt i) = false := by
  -- Decimal digits come first, or a minus before them; neither is a letter or the underscore.
  have hdecimal (n : Nat) : Answer.isIdentifier (Text.decimal n) = false := by
    obtain ⟨d, rest, hdigits⟩ := List.exists_cons_of_ne_nil (Text.decimal_ne_nil n)
    have hdigit := Text.decimal_isDigit n
    rw [hdigits] at hdigit ⊢
    have hd : d.isDigit = true := hdigit d List.mem_cons_self
    have hfirst : (d.isAlpha || d == '_') = false := by
      rw [isAlpha_of_isDigit hd, Bool.false_or, beq_eq_false_iff_ne]
      rintro rfl
      cases hd
    rw [Answer.isIdentifier, hfirst, Bool.false_and]
  rw [writtenInt, Text.signedDecimal]
  split
  · rfl
  · exact hdecimal _

/-- Of the texts of converted values, only the words for constants look like the name of a
    function. -/
theorem mem_words_of_isIdentifier {json : Json} (hjson : json.IsWhole) {v : Value}
    (hv : ofJson? json = some v) (hname : Answer.isIdentifier v.text.toList = true) :
    v.text ∈ ["True", "False", "None"] := by
  rw [text, String.toList_ofList] at hname
  cases hjson with
  | null =>
    cases hv
    decide
  | bool b =>
    cases hv
    cases b <;> decide
  | int _ =>
    cases hv
    rw [written, isIdentifier_writtenInt] at hname
    cases hname
  | str s =>
    cases hv
    rw [written, writtenStr] at hname
    cases hname
  | array _ =>
    obtain ⟨values, -, rfl⟩ := Option.map_eq_some_iff.mp hv
    rw [written] at hname
    cases hname
  | object _ => cases hv

end Value

/-- The names of the functions of a target are identifiers, and not the words for constants. -/
def Target.NamesFunctions (t : Target) : Prop :=
  ∀ name ∈ t.functions, Answer.isIdentifier name.toList = true
    ∧ name ∉ ["True", "False", "None"]

/-- Whether a target names functions only can be decided. -/
instance (t : Target) : Decidable t.NamesFunctions :=
  inferInstanceAs (Decidable (∀ name ∈ t.functions, _))

namespace Override

variable {t : Target} {name : String} {json : Json} {value v : Value}

/-! ### Texts of overrides -/

/-- A string may become a reference to a function of the target; nothing else changes. -/
theorem resolve_cases (t : Target) (name : String) (value : Value) :
    resolve t name value = value
      ∨ ∃ s, s ∈ t.functions ∧ resolve t name value = .function s
        ∧ check t name (.function s) = .ok (.function s) := by
  unfold resolve
  -- A name is resolved only to a function that the parameter accepts.
  split
  · next s p hparam =>
    split
    · next hcondition =>
      simp only [Bool.and_eq_true] at hcondition
      obtain ⟨⟨hmem, -⟩, haccepts⟩ := hcondition
      exact .inr ⟨s, by simpa using hmem, rfl, by simp [check, hparam, haccepts]⟩
    · exact .inl rfl
  · exact .inl rfl

/-- The text of an override is read as the override. -/
theorem evaluate_resolved (hfunctions : t.NamesFunctions) (hjson : json.IsWhole)
    (hvalue : Value.ofJson? json = some value) (name : String) :
    Answer.evaluate t.functions (resolve t name value).text = .ok (resolve t name value) := by
  -- A function is spelled by its name; all other values by a literal, which never is a name here.
  rcases resolve_cases t name value with hsame | ⟨s, hmem, hfunction, -⟩
  · rw [hsame]
    obtain ⟨hdata, hsmallest⟩ := Value.isLiteral_of_json json hjson value hvalue
    have hname : ¬ Answer.IsFunctionName t.functions value.text := by
      rintro ⟨hidentifier, hcontains⟩
      have hword := Value.mem_words_of_isIdentifier hjson hvalue hidentifier
      exact (hfunctions _ (by simpa using hcontains)).2 hword
    rw [Answer.evaluate_text_of_isData hdata hname, (Answer.reread_eq_iff value).mpr hsmallest]
  · rw [hfunction]
    have hname : Answer.IsFunctionName t.functions (Value.text (.function s)) := by
      simpa [Answer.IsFunctionName, Value.text, Value.written] using
        ⟨(hfunctions s hmem).1, hmem⟩
    rw [Answer.evaluate_functionName hname, Value.text, Value.written, String.ofList_toList]

/-! ### Assignments -/

/-- The assignment of a value to a name. -/
def assignment (name : String) (v : Value) : String := name ++ "=" ++ v.text

/-- An assignment of a value that is read back is checked like the value. -/
theorem parse_assignment (hequals : '=' ∉ name.toList) (htrim : Text.trim name.toList = name.toList)
    (hv : Answer.evaluate t.functions v.text = .ok v) :
    parse t (assignment name v) = (fun v => (name, v)) <$> check t name v := by
  have hsplit : Text.splitOnce? ['='] (assignment name v).toList
      = some (name.toList, v.text.toList) := by
    have htext : (assignment name v).toList = name.toList ++ '=' :: v.text.toList := by
      simp [assignment]
    rw [htext, Text.splitOnce_of_not_mem hequals]
  rw [parse, hsplit]
  dsimp only
  rw [htrim, String.ofList_toList, String.ofList_toList, hv]

/-! ### Configurations -/

/-- A single field is inserted by itself. -/
theorem arguments_single (t : Target) (name : String) (json : Json) :
    TargetSettings.arguments ⟨some [(name, json)]⟩ t
      = Arguments.empty.insert name <$> ofJson t name json := by
  show (Arguments.empty.insert name ·) <$> ofJson t name json >>= pure = _
  rw [bind_pure]

/-- **Overrides as assignments.** The target's functions have names of their own, and the parameter
    has a name that can stand in front of an equals sign.  If a configuration can give it a value by
    JSON whose numbers are integers other than the smallest one, then assigning the text of that
    value gives the same.  If it cannot, the assignment of the converted value fails just so, unless
    the JSON holds an object and there is none. -/
theorem parse_configured (hfunctions : t.NamesFunctions) (hequals : '=' ∉ name.toList)
    (htrim : Text.trim name.toList = name.toList) (hjson : json.IsWhole) :
    (∀ a, TargetSettings.arguments ⟨some [(name, json)]⟩ t = .ok a →
        ∃ v, a.entries = [(name, v)] ∧ parse t (assignment name v) = .ok (name, v))
      ∧ ∀ fault, TargetSettings.arguments ⟨some [(name, json)]⟩ t = .error fault →
        (fault = .nested name ∧ Value.ofJson? json = none)
          ∨ ∃ v, Value.ofJson? json = some v
            ∧ parse t (assignment name v) = .error fault := by
  rw [arguments_single, ofJson]
  cases hvalue : Value.ofJson? json with
  | none =>
    refine ⟨nofun, fun fault hfault => .inl ⟨?_, rfl⟩⟩
    cases hfault
    rfl
  | some value =>
    have hparse := parse_assignment hequals htrim (evaluate_resolved hfunctions hjson hvalue name)
    dsimp only
    constructor
    · intro a ha
      obtain ⟨v, hcheck, rfl⟩ := Except.map_eq_ok.mp ha
      obtain ⟨rfl, -⟩ := check_ok hcheck
      refine ⟨_, rfl, ?_⟩
      rw [hparse, hcheck]
      rfl
    · intro fault hfault
      have hcheck := Except.map_eq_error.mp hfault
      -- A reference is admitted, so it is the converted value that is refused.
      rcases resolve_cases t name value with hsame | ⟨s, -, hfunction, hadmitted⟩
      · rw [hsame] at hparse hcheck
        refine .inr ⟨value, rfl, ?_⟩
        rw [hparse, hcheck]
        rfl
      · rw [hfunction, hadmitted] at hcheck
        cases hcheck

/-- The name of a function becomes a reference to it, where no string is admitted. -/
theorem parse_configured_reference :
    ∃ t : Target, t = Lindenmayer.target (fun _ => ⟨0, 0, 0⟩) ∧ t.NamesFunctions
      ∧ '=' ∉ "fg_color".toList ∧ Text.trim "fg_color".toList = "fg_color".toList
      ∧ (Json.str "heading").IsWhole
      ∧ TargetSettings.arguments ⟨some [("fg_color", .str "heading")]⟩ t
        = .ok ⟨[("fg_color", .function "heading")]⟩
      ∧ parse t "fg_color=heading" = .ok ("fg_color", .function "heading") := by
  obtain ⟨t, ht⟩ : ∃ t, t = Lindenmayer.target (fun _ => ⟨0, 0, 0⟩) := ⟨_, rfl⟩
  have hfunctions : t.NamesFunctions := by
    rw [ht]
    decide
  have hconfigured : TargetSettings.arguments ⟨some [("fg_color", .str "heading")]⟩ t
      = .ok ⟨[("fg_color", .function "heading")]⟩ := by
    rw [ht]
    rfl
  obtain ⟨v, hentries, hparse⟩ :=
    (parse_configured hfunctions (by decide) (by decide) (.str "heading")).1 _ hconfigured
  obtain ⟨-, rfl⟩ := Prod.mk.inj (List.singleton_inj.mp hentries)
  exact ⟨t, ht, hfunctions, by decide, by decide, .str _, hconfigured, hparse⟩

end Override

end Questionnaire
