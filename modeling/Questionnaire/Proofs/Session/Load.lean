import Questionnaire.Proofs.Session.Retry

namespace Questionnaire

/-!
# Loading saved answers

A saved configuration is loaded as a whole or not at all.  What it gives to a parameter is what an
answer to the question for that parameter would give.

* `Parameter.Reads` — the value that a saved answer has for a parameter.
* `Setup.Misreads` — an answer without one, and why.
* `Setup.loadAll_eq_ok`, `Setup.loadAll_error` — loading goes through the parameters in their
  order, up to the first one whose answer has no value.
* `Setup.Loaded` — what is loaded: the values of answers, and defaults where there are none.
* `Setup.loadAll_exact` — when loading succeeds, what it gives, and which parameter it fails at.
-/

open Questionnaire.Text (trimmed)

/-! ### Saved answers -/

/-- The value that a saved answer has for a parameter, of the type that is declared: its own one,
    or itself as a string if it has none. -/
inductive Parameter.Reads (functions : List String) (p : Parameter) (answer : String) : Value → Prop
  | value {v : Value} (hvalue : Answer.evaluate functions answer = .ok v)
      (htype : p.type.accepts v = true) : Reads functions p answer v
  | text {fault : Answer.Fault} (hfault : Answer.evaluate functions answer = .error fault)
      (hcrash : fault ≠ .crash) (htype : p.type.accepts (.str (trimmed answer)) = true) :
      Reads functions p answer (.str (trimmed answer))

namespace Setup

variable {s : Setup} {overrides : Arguments} {saved : Saved} {p : Parameter} {answer : String}

/-- A saved answer has no value for a parameter: its own one has another type, or it has none and
    is no string of the type either. -/
inductive Misreads (s : Setup) (p : Parameter) (answer : String) : LoadFault → Prop
  | misfit {v : Value} (hvalue : Answer.evaluate s.functions answer = .ok v)
      (htype : p.type.accepts v = false) : Misreads s p answer (.misfit v p.name p.type)
  | fault {fault : Answer.Fault} (hfault : Answer.evaluate s.functions answer = .error fault)
      (htype : p.type.accepts (.str (trimmed answer)) = false) :
      Misreads s p answer (.answer p.name fault)

/-- The message about an answer names its parameter. -/
theorem Misreads.message {fault : LoadFault} (h : s.Misreads p answer fault) :
    ∃ before after, fault.message = before ++ "'" ++ p.name ++ "'" ++ after := by
  -- Both messages put the name between quotes; only the text before and after it differs.
  cases h with
  | @misfit v hvalue htype =>
    have hopening : " of '" = " of " ++ "'" := by decide
    have hclosing : "' is not a valid " = "'" ++ " is not a valid " := by decide
    refine ⟨"Saved value " ++ v.text ++ " of ", " is not a valid " ++ p.type.text, ?_⟩
    calc LoadFault.message (.misfit v p.name p.type)
        = "Saved value " ++ v.text ++ " of '" ++ p.name ++ "' is not a valid "
          ++ p.type.text := rfl
      _ = _ := by rw [hopening, hclosing]; simp only [String.append_assoc]
  | @fault cause hfault htype =>
    have hopening : "Saved value of '" = "Saved value of " ++ "'" := by decide
    have hclosing : "': " = "'" ++ ": " := by decide
    refine ⟨"Saved value of ", ": " ++ cause.message, ?_⟩
    calc LoadFault.message (.answer p.name cause)
        = "Saved value of '" ++ p.name ++ "': " ++ cause.message := rfl
      _ = _ := by rw [hopening, hclosing]; simp only [String.append_assoc]

/-- An answer that has no value for a parameter has none. -/
theorem Misreads.not_reads {fault : LoadFault} (h : s.Misreads p answer fault) (v : Value) :
    ¬ p.Reads s.functions answer v := by
  intro hreads
  -- An answer has one value or one fault, so it cannot be read in one way and misread in the other.
  cases h with
  | misfit hvalue htype =>
    cases hreads with
    | value hvalue' htype' =>
      obtain rfl := Except.ok.inj (hvalue.symm.trans hvalue')
      rw [htype] at htype'
      cases htype'
    | text hfault _ _ =>
      rw [hvalue] at hfault
      cases hfault
  | fault hfault htype =>
    cases hreads with
    | value hvalue _ =>
      rw [hfault] at hvalue
      cases hvalue
    | text _ _ htype' =>
      rw [htype] at htype'
      cases htype'

/-- A value is loaded with an answer that is taken for it when it is entered. -/
theorem loadAnswer_of_reads {v : Value} (h : p.Reads s.functions answer v) (function : String) :
    ∃ token, s.loadAnswer p answer = .ok ⟨v, some token⟩
      ∧ (Question.ofParameter function p).Takes s.functions token ⟨v, some token⟩ := by
  cases h with
  | value hvalue htype =>
    refine ⟨trimmed answer, by simp [loadAnswer, hvalue, htype], ?_⟩
    have htaken : (Question.ofParameter function p).Takes s.functions (trimmed answer)
        ⟨v, some (trimmed (trimmed answer))⟩ :=
      .entered ((Answer.evaluate_trimmed _ _).trans hvalue) htype
    rwa [Text.trimmed_trimmed] at htaken
  | @text fault hfault hcrash htype =>
    refine ⟨(Value.str (trimmed answer)).text, ?_, ?_⟩
    · unfold loadAnswer
      rw [hfault]
      cases fault with
      | crash => exact absurd rfl hcrash
      | _ => exact if_pos htype
    · -- what is saved as bare text is entered between quotes
      have htaken : (Question.ofParameter function p).Takes s.functions
          (Value.str (trimmed answer)).text
          ⟨.str (trimmed answer), some (trimmed (Value.str (trimmed answer)).text)⟩ :=
        .entered (Answer.evaluate_str _ _) htype
      rwa [Answer.trimmed_text_str] at htaken

/-- Loading such an answer fails for this reason. -/
theorem loadAnswer_of_misreads {fault : LoadFault} (h : s.Misreads p answer fault) :
    s.loadAnswer p answer = .error fault := by
  cases h with
  | misfit hvalue htype => simp [loadAnswer, hvalue, htype]
  | @fault cause hfault htype =>
    unfold loadAnswer
    rw [hfault]
    cases cause with
    | crash => rfl
    | _ => exact if_neg (by simp [htype])

/-- An answer either has a value for a parameter or has none, unless evaluating it breaks off. -/
theorem reads_or_misreads (p : Parameter) (hunbroken : ¬ s.Breaks answer) :
    (∃ v, p.Reads s.functions answer v) ∨ ∃ fault, s.Misreads p answer fault := by
  cases heval : Answer.evaluate s.functions answer with
  | ok v =>
    cases htype : p.type.accepts v with
    | true => exact Or.inl ⟨v, .value heval htype⟩
    | false => exact Or.inr ⟨_, .misfit heval htype⟩
  | error fault =>
    cases htype : p.type.accepts (.str (trimmed answer)) with
    | true =>
      refine Or.inl ⟨_, .text heval ?_ htype⟩
      rintro rfl
      exact hunbroken heval
    | false => exact Or.inr ⟨_, .fault heval htype⟩

/-! ### One parameter -/

/-- A parameter is looked for in a configuration unless it is overridden or internal. -/
def isLoaded (overrides : Arguments) (p : Parameter) : Bool :=
  !(overrides.contains p.name || p.isInternal)

/-- If there is a saved answer for a parameter, it has a value. -/
def IsReadable (s : Setup) (saved : Saved) (p : Parameter) : Prop :=
  ∀ answer, saved.get? p.name = some answer → ∃ v, p.Reads s.functions answer v

/-- Without a saved answer there is the default, or nothing. -/
theorem loadParameter_of_none (h : saved.get? p.name = none) :
    s.loadParameter saved p = .ok (p.default.map fun v => ⟨v, none⟩) := by
  rw [loadParameter, h]

/-- With one that has a value, there is this value, and its token would give the same when
    entered. -/
theorem loadParameter_of_reads (hget : saved.get? p.name = some answer) {v : Value}
    (h : p.Reads s.functions answer v) (function : String) :
    ∃ token, s.loadParameter saved p = .ok (some ⟨v, some token⟩)
      ∧ (Question.ofParameter function p).Takes s.functions token ⟨v, some token⟩ := by
  obtain ⟨token, hload, htaken⟩ := loadAnswer_of_reads h function
  exact ⟨token, by rw [loadParameter, hget]; simp [hload], htaken⟩

/-- With one that has none, loading fails. -/
theorem loadParameter_of_misreads (hget : saved.get? p.name = some answer) {fault : LoadFault}
    (h : s.Misreads p answer fault) : s.loadParameter saved p = .error fault := by
  rw [loadParameter, hget]
  simp [loadAnswer_of_misreads h]

/-- A parameter that can be read is loaded. -/
theorem IsReadable.loadParameter (h : s.IsReadable saved p) :
    ∃ g, s.loadParameter saved p = .ok g := by
  cases hget : saved.get? p.name with
  | none => exact ⟨_, loadParameter_of_none hget⟩
  | some answer =>
    obtain ⟨v, hv⟩ := h answer hget
    obtain ⟨token, hload, -⟩ := loadParameter_of_reads hget hv ""
    exact ⟨_, hload⟩

/-- Loading for a parameter fails only at a saved answer that has no value. -/
theorem loadParameter_error (hunbroken : ∀ key answer, (key, answer) ∈ saved.values →
    ¬ s.Breaks answer) {fault : LoadFault} (h : s.loadParameter saved p = .error fault) :
    ∃ answer, saved.get? p.name = some answer ∧ s.Misreads p answer fault := by
  cases hget : saved.get? p.name with
  | none =>
    rw [loadParameter_of_none hget] at h
    cases h
  | some answer =>
    rcases reads_or_misreads p (hunbroken _ _ (Keyed.mem_of_lookup hget)) with
      ⟨v, hv⟩ | ⟨fault', hfault'⟩
    · obtain ⟨token, hload, -⟩ := loadParameter_of_reads hget hv ""
      rw [hload] at h
      cases h
    · obtain rfl : fault' = fault :=
        Except.error.inj ((loadParameter_of_misreads hget hfault').symm.trans h)
      exact ⟨answer, rfl, hfault'⟩

/-! ### Parameters in their order -/

/-- Loading goes on with the next parameter behind one that is loaded or left out. -/
theorem loadAll_cons (s : Setup) (overrides : Arguments) (saved : Saved) (p : Parameter)
    (params : List Parameter) :
    s.loadAll overrides saved (p :: params) =
      if isLoaded overrides p then do
        let given ← s.loadParameter saved p
        let more ← s.loadAll overrides saved params
        return (given.map fun given => (p.name, given)).toList ++ more
      else s.loadAll overrides saved params := by
  rw [loadAll, isLoaded]
  cases overrides.contains p.name || p.isInternal with
  | true => rfl
  | false =>
    simp only [Bool.false_eq_true, if_false, Bool.not_false, if_true]
    exact bind_congr fun given => bind_congr fun more => by cases given <;> rfl

/-- What a configuration gives to a parameter, if it can be loaded. -/
def given? (s : Setup) (saved : Saved) (p : Parameter) : Option Given :=
  (s.loadParameter saved p).toOption.join

/-- What is loaded for a parameter is what the configuration gives to it. -/
theorem given?_of_ok {g : Option Given} (h : s.loadParameter saved p = .ok g) :
    s.given? saved p = g := by
  rw [given?, h]
  rfl

/-- What a configuration gives to parameters, by name. -/
def givens (s : Setup) (overrides : Arguments) (saved : Saved) (params : List Parameter) :
    List (String × Given) :=
  (params.filter (isLoaded overrides)).filterMap fun p =>
    (s.given? saved p).map fun given => (p.name, given)

/-- Loading succeeds where it does for each parameter, and gives what each of them is given. -/
theorem loadAll_eq_ok {params : List Parameter} {restored : List (String × Given)} :
    s.loadAll overrides saved params = .ok restored
      ↔ (∀ p ∈ params, isLoaded overrides p = true → ∃ g, s.loadParameter saved p = .ok g)
        ∧ restored = s.givens overrides saved params := by
  -- The induction is on the parameters: one that is not loaded changes nothing, and one that is has
  -- to be read before the others.
  induction params generalizing restored with
  | nil =>
    constructor
    · intro h
      exact ⟨by simp, (Except.ok.inj h).symm⟩
    · rintro ⟨-, rfl⟩
      rfl
  | cons p params ih =>
    rw [loadAll_cons, List.forall_mem_cons]
    cases hp : isLoaded overrides p with
    | false =>
      rw [if_neg Bool.false_ne_true, ih]
      simp [givens, hp]
    | true =>
      rw [if_pos rfl]
      constructor
      · intro h
        obtain ⟨g, hg, h⟩ := Except.bind_eq_ok.mp h
        obtain ⟨more, hmore, h⟩ := Except.bind_eq_ok.mp h
        obtain ⟨hall, rfl⟩ := ih.mp hmore
        refine ⟨⟨fun _ => ⟨g, hg⟩, hall⟩, ?_⟩
        rw [← Except.ok.inj h]
        cases g <;> simp [givens, hp, given?_of_ok hg]
      · rintro ⟨⟨hfirst, hall⟩, rfl⟩
        obtain ⟨g, hg⟩ := hfirst rfl
        rw [hg, ih.mpr ⟨hall, rfl⟩]
        refine congrArg Except.ok ?_
        cases g <;> simp [givens, hp, given?_of_ok hg]

/-- Loading fails with the first parameter for which it does. -/
theorem loadAll_error {params : List Parameter} {fault : LoadFault}
    (h : s.loadAll overrides saved params = .error fault) :
    ∃ before p after, params = before ++ p :: after
      ∧ (∀ q ∈ before, isLoaded overrides q = true → ∃ g, s.loadParameter saved q = .ok g)
      ∧ isLoaded overrides p = true ∧ s.loadParameter saved p = .error fault := by
  induction params with
  | nil => cases h
  | cons p params ih =>
    -- the failure is that of `p`, or the one that is found among the rest
    have hrest (hrest : s.loadAll overrides saved params = .error fault)
        (hp : isLoaded overrides p = true → ∃ g, s.loadParameter saved p = .ok g) :
        ∃ before q after, p :: params = before ++ q :: after
          ∧ (∀ q ∈ before, isLoaded overrides q = true → ∃ g, s.loadParameter saved q = .ok g)
          ∧ isLoaded overrides q = true ∧ s.loadParameter saved q = .error fault := by
      obtain ⟨before, q, after, rfl, hbefore, hq⟩ := ih hrest
      exact ⟨p :: before, q, after, rfl, List.forall_mem_cons.mpr ⟨hp, hbefore⟩, hq⟩
    rw [loadAll_cons] at h
    cases hp : isLoaded overrides p with
    | false =>
      rw [hp, if_neg Bool.false_ne_true] at h
      exact hrest h (by simp [hp])
    | true =>
      rw [hp, if_pos rfl] at h
      rcases Except.bind_eq_error.mp h with hfirst | ⟨g, hg, h⟩
      · exact ⟨[], p, params, rfl, by simp, hp, hfirst⟩
      · rcases Except.bind_eq_error.mp h with hmore | ⟨more, -, h⟩
        · exact hrest hmore fun _ => ⟨g, hg⟩
        · cases h

/-! ### The whole configuration -/

/-- What has been loaded.  Each parameter that is looked for has the value of its saved answer with
    an answer that would give the same when it is entered, or else its default, if it has one.  No
    other name has a value. -/
structure Loaded (s : Setup) (signature : Signature) (overrides : Arguments) (saved : Saved)
    (restored : List (String × Given)) : Prop where
  names : Keyed.keys restored = (signature.params.filter fun p => isLoaded overrides p
    && ((saved.get? p.name).isSome || p.default.isSome)).map (·.name)
  once : (Keyed.keys restored).Nodup
  answered : ∀ p ∈ signature.params, isLoaded overrides p = true → ∀ answer,
    saved.get? p.name = some answer → ∃ v token, p.Reads s.functions answer v
      ∧ restored.lookup p.name = some ⟨v, some token⟩
      ∧ ∀ rest files events,
        (s.ask (.ofParameter signature.name p)).run ⟨token :: rest, files, events⟩
          = .ok ⟨v, some token⟩
            ⟨rest, files, events ++ [.asked (.ofParameter signature.name p), .answered]⟩
  kept : ∀ p ∈ signature.params, isLoaded overrides p = true → saved.get? p.name = none →
    restored.lookup p.name = p.default.map fun v => ⟨v, none⟩

/-- A configuration gives a value if it holds an answer or there is a default. -/
theorem isSome_given? (h : s.IsReadable saved p) :
    (s.given? saved p).isSome = ((saved.get? p.name).isSome || p.default.isSome) := by
  cases hget : saved.get? p.name with
  | none => simp [given?_of_ok (loadParameter_of_none hget)]
  | some answer =>
    obtain ⟨v, hv⟩ := h answer hget
    obtain ⟨token, hload, -⟩ := loadParameter_of_reads hget hv ""
    simp [given?_of_ok hload]

/-- The names of what is given are those of the parameters that are given something. -/
theorem keys_givens (s : Setup) (overrides : Arguments) (saved : Saved)
    (params : List Parameter) : Keyed.keys (s.givens overrides saved params)
      = (params.filter fun p => isLoaded overrides p && (s.given? saved p).isSome).map (·.name) := by
  induction params with
  | nil => rfl
  | cons p params ih =>
    rw [givens] at ih ⊢
    cases hp : isLoaded overrides p with
    | false => simpa [hp] using ih
    | true => cases hg : s.given? saved p <;> simpa [hp, hg, Keyed.keys] using ih

/-- Under the name of a parameter stands what is given to it. -/
theorem lookup_givens {params : List Parameter} (hdistinct : (params.map (·.name)).Nodup)
    (hmem : p ∈ params) (hp : isLoaded overrides p = true) :
    (s.givens overrides saved params).lookup p.name = s.given? saved p := by
  have hnodup : (Keyed.keys (s.givens overrides saved params)).Nodup := by
    rw [keys_givens]
    exact hdistinct.sublist (List.filter_sublist.map _)
  cases hg : s.given? saved p with
  | some g =>
    apply Keyed.lookup_of_mem hnodup
    exact List.mem_filterMap.mpr ⟨p, List.mem_filter.mpr ⟨hmem, hp⟩, by simp [hg]⟩
  | none =>
    apply Keyed.lookup_eq_none_of_not_mem
    rw [keys_givens]
    intro hname
    -- another parameter of this name would be given something
    obtain ⟨q, hq, hqname⟩ := List.mem_map.mp hname
    obtain ⟨hqmem, hqgiven⟩ := List.mem_filter.mp hq
    obtain rfl := eq_of_name_eq hdistinct hqmem hmem hqname
    simp [hg] at hqgiven

/-- What is given to all parameters has been loaded as it should. -/
theorem givens_loaded {signature : Signature} (hwf : signature.WellFormed)
    (hreadable : ∀ p ∈ signature.params, isLoaded overrides p = true → s.IsReadable saved p) :
    s.Loaded signature overrides saved (s.givens overrides saved signature.params) := by
  constructor
  case names =>
    rw [keys_givens]
    congr 1
    apply List.filter_congr
    intro p hmem
    cases hp : isLoaded overrides p with
    | false => rfl
    | true => rw [isSome_given? (hreadable p hmem hp)]
  case once =>
    rw [keys_givens]
    exact hwf.distinct.sublist (List.filter_sublist.map _)
  case answered =>
    intro p hmem hp answer hget
    obtain ⟨v, hv⟩ := hreadable p hmem hp answer hget
    obtain ⟨token, hload, htaken⟩ := loadParameter_of_reads hget hv signature.name
    exact ⟨v, token, hv, (lookup_givens hwf.distinct hmem hp).trans (given?_of_ok hload),
      ask_run_taken htaken⟩
  case kept =>
    intro p hmem hp hget
    exact (lookup_givens hwf.distinct hmem hp).trans (given?_of_ok (loadParameter_of_none hget))

/-- **Loading.** A configuration is loaded if and only if the saved answer of each parameter that is
    looked for has a value.  Then all of them are loaded, and defaults where there are no answers.
    Otherwise nothing is, and the fault is that of the first parameter whose answer has no value,
    which its message names. -/
theorem loadAll_exact {name : String} {steps : List Signature.Step} {signature : Signature}
    (hbuild : Signature.build name steps = .ok signature) (s : Setup) (overrides : Arguments)
    {saved : Saved} (hunbroken : ∀ key answer, (key, answer) ∈ saved.values →
      Answer.evaluate s.functions answer ≠ .error .crash) :
    ((∃ restored, s.loadAll overrides saved signature.params = .ok restored)
      ↔ ∀ p ∈ signature.params, isLoaded overrides p = true → s.IsReadable saved p)
    ∧ (∀ restored, s.loadAll overrides saved signature.params = .ok restored →
      s.Loaded signature overrides saved restored)
    ∧ ∀ fault, s.loadAll overrides saved signature.params = .error fault →
      ∃ before p after answer, signature.params = before ++ p :: after
        ∧ (∀ q ∈ before, isLoaded overrides q = true → s.IsReadable saved q)
        ∧ isLoaded overrides p = true ∧ saved.get? p.name = some answer
        ∧ (∀ v, ¬ p.Reads s.functions answer v) ∧ s.Misreads p answer fault
        ∧ ∃ opening closing, fault.message = opening ++ "'" ++ p.name ++ "'" ++ closing := by
  have hwf := (Signature.build_wellFormed hbuild).1
  -- An answer that does not end the program is read or misread, and a misread one stops the
  -- loading.
  have hreadable (p : Parameter) (h : ∃ g, s.loadParameter saved p = .ok g) :
      s.IsReadable saved p := by
    intro answer hget
    obtain ⟨g, hg⟩ := h
    refine (reads_or_misreads p (hunbroken _ _ (Keyed.mem_of_lookup hget))).resolve_right ?_
    rintro ⟨fault, hfault⟩
    rw [loadParameter_of_misreads hget hfault] at hg
    cases hg
  refine ⟨⟨?_, ?_⟩, ?_, ?_⟩
  · rintro ⟨restored, hload⟩ p hmem hp
    exact hreadable p ((loadAll_eq_ok.mp hload).1 p hmem hp)
  · intro hall
    exact ⟨_, loadAll_eq_ok.mpr ⟨fun p hmem hp => (hall p hmem hp).loadParameter, rfl⟩⟩
  · intro restored hload
    obtain ⟨hall, rfl⟩ := loadAll_eq_ok.mp hload
    exact givens_loaded hwf fun p hmem hp => hreadable p (hall p hmem hp)
  -- The loading stops at the first parameter that is misread; those before it have been read.
  · intro fault hload
    obtain ⟨before, p, after, hparams, hbefore, hp, hfault⟩ := loadAll_error hload
    obtain ⟨answer, hget, hmisreads⟩ := loadParameter_error hunbroken hfault
    exact ⟨before, p, after, answer, hparams,
      fun q hmem hq => hreadable q (hbefore q hmem hq), hp, hget, hmisreads.not_reads, hmisreads,
      hmisreads.message⟩

/-- A number, a bare text with a quote in it, a default, and an overridden parameter whose saved
    answer is not looked at. -/
theorem loadAll_exact_text :
    ∃ signature restored,
      Signature.build "f" [.param "n" "int" none, .param "t" "str" none,
        .param "d" "int" (some (.int 2)), .param "o" "int" none] = .ok signature
      ∧ Setup.loadAll ⟨[], ⟨0⟩, true, "."⟩ ⟨[("o", .int 4)]⟩
          ⟨[("o", "1 +"), ("t", " it's "), ("n", " 5 ")]⟩ signature.params = .ok restored
      ∧ restored.map (fun (name, given) => (name, given.token))
        = [("n", some "5"), ("t", some "\"it's\""), ("d", none)]
      ∧ Setup.Loaded ⟨[], ⟨0⟩, true, "."⟩ signature ⟨[("o", .int 4)]⟩
          ⟨[("o", "1 +"), ("t", " it's "), ("n", " 5 ")]⟩ restored := by
  obtain ⟨signature, hsignature⟩ : ∃ signature : Signature, signature = ⟨"f", none,
      [⟨"n", .int, none, none⟩, ⟨"t", .str, none, none⟩, ⟨"d", .int, some (.int 2), none⟩,
        ⟨"o", .int, none, none⟩]⟩ := ⟨_, rfl⟩
  have hbuild : Signature.build "f" [.param "n" "int" none, .param "t" "str" none,
      .param "d" "int" (some (.int 2)), .param "o" "int" none] = .ok signature := by
    rw [hsignature]
    rfl
  obtain ⟨restored, hload, htokens⟩ : ∃ restored,
      Setup.loadAll ⟨[], ⟨0⟩, true, "."⟩ ⟨[("o", .int 4)]⟩
        ⟨[("o", "1 +"), ("t", " it's "), ("n", " 5 ")]⟩ signature.params = .ok restored
      ∧ restored.map (fun (name, given) => (name, given.token))
        = [("n", some "5"), ("t", some "\"it's\""), ("d", none)] := by
    rw [hsignature]
    exact ⟨_, rfl, rfl⟩
  -- No answer of the file ends the program.  The first one is of an overridden parameter and is not
  -- even evaluated.
  have hunbroken (key answer : String)
      (hmem : (key, answer) ∈ [("o", "1 +"), ("t", " it's "), ("n", " 5 ")]) :
      Answer.evaluate [] answer ≠ .error .crash := by
    have hsum : Answer.evaluate [] "1 +" = .error (.expression (.operandCount 2 1)) := rfl
    have hopen : Answer.evaluate [] " it's " = .error .openLiteral := rfl
    have hnumber : Answer.evaluate [] " 5 " = .ok (.int 5) := rfl
    simp only [List.mem_cons, Prod.mk.injEq, List.not_mem_nil, or_false] at hmem
    rcases hmem with ⟨-, rfl⟩ | ⟨-, rfl⟩ | ⟨-, rfl⟩ <;> simp [hsum, hopen, hnumber]
  exact ⟨signature, restored, hbuild, hload, htokens,
    (loadAll_exact hbuild ⟨[], ⟨0⟩, true, "."⟩ ⟨[("o", .int 4)]⟩ hunbroken).2.1 restored hload⟩

end Setup

end Questionnaire
