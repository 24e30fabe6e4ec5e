import Mathlib.Data.List.Forall2
import Mathlib.Data.List.Nodup
import Questionnaire.Proofs.Except
import Questionnaire.Signature.Build

namespace Questionnaire.Signature

/-!
# Declared signatures

A declaration can be read from left to right: each parameter has the documentation that is given to
it before the next one comes, and the function has the last one that is given to it anywhere.

* `declared`, `functionDoc?` — the parameters and the documentation of a declaration.
* `IsConsistent` — what a declaration has to be like for a signature to be built.
* `IsDeclaredBy` — the signature of a declaration.
* `build_declared` — consistent declarations are built, and no others.
-/

/-! ### Specification -/

namespace Step

/-- The step declares a parameter. -/
def isParam : Step → Bool
  | .param .. => true
  | _ => false

/-- The documentation that a step gives to the function. -/
def docOfFunction? : Step → Option String
  | .doc text => some text
  | _ => none

/-- The documentation that a step gives to the latest parameter. -/
def docOfLatest? : Step → Option String
  | .paramDoc text => some text
  | _ => none

end Step

/-- The documentation of the function, which is the last one that is given. -/
def functionDoc? (steps : List Step) : Option String :=
  (steps.filterMap Step.docOfFunction?).getLast?

/-- The documentation that is given to parameters before one is declared. -/
def leadingDocs (steps : List Step) : List String :=
  (steps.takeWhile fun step => !step.isParam).filterMap Step.docOfLatest?

/-- The parameters that are declared, in order.  Each has the last documentation that is given
    before the next one is declared. -/
def declared : List Step → List ParameterDraft
  | [] => []
  | .param name type default :: rest =>
    ⟨name, type, default, (leadingDocs rest).getLast?⟩ :: declared rest
  | _ :: rest => declared rest

/-- The declaration names the function, gives documentation to parameters only once there is one,
    and declares distinct parameters.  Every type can be read, every default is of its type, and a
    parameter whose name starts with an underscore has a default. -/
structure IsConsistent (name : String) (steps : List Step) : Prop where
  named : name ≠ ""
  placed : leadingDocs steps = []
  distinct : ((declared steps).map (·.name)).Nodup
  typed : ∀ p ∈ declared steps, ∃ type, ValueType.read p.type = .ok type
  accepted : ∀ p ∈ declared steps, ∀ type value, ValueType.read p.type = .ok type →
    p.default = some value → type.accepts value = true
  internal : ∀ p ∈ declared steps, p.name.toList.head? = some '_' → ∃ value, p.default = some value

/-- A parameter is what has been declared, with its type read.  Without documentation of its own it
    has its fragment of the documentation of the function. -/
structure Specifies (doc : Option String) (declared : ParameterDraft) (p : Parameter) : Prop where
  name : p.name = declared.name
  type : ValueType.read declared.type = .ok p.type
  default : p.default = declared.default
  doc : p.doc = declared.doc.or (doc.bind (paramDoc? · declared.name))

/-- The signature of a declaration. -/
structure IsDeclaredBy (s : Signature) (name : String) (steps : List Step) : Prop where
  name : s.name = name
  doc : s.doc = functionDoc? steps
  params : List.Forall₂ (Specifies (functionDoc? steps)) (declared steps) s.params

/-! ### Steps -/

/-- Of several texts the last one counts, and none of those in front of them. -/
theorem getLast?_cons_or (text : String) (texts : List String) (before : Option String) :
    (text :: texts).getLast?.or before = texts.getLast?.or (some text) := by
  cases texts <;> simp [List.getLast?_cons]

/-- Drafts, of which the first is given documentation. -/
def document (docs : List String) : List ParameterDraft → List ParameterDraft
  | [] => []
  | p :: rest => { p with doc := docs.getLast?.or p.doc } :: rest

/-- Without any documentation, parameters stay as they are declared. -/
@[simp] theorem document_nil (params : List ParameterDraft) : document [] params = params := by
  cases params <;> rfl

/-- What steps make of a draft. -/
theorem foldl_add (steps : List Step) (d : Draft) :
    steps.foldl Draft.add d =
      { doc := (functionDoc? steps).or d.doc
        params := (declared steps).reverse ++ document (leadingDocs steps) d.params
        misplacedDoc := d.misplacedDoc || d.params.isEmpty && !(leadingDocs steps).isEmpty } := by
  -- The induction is on the steps.  Only those before the next parameter document the last one.
  induction steps generalizing d with
  | nil => simp [functionDoc?, leadingDocs, declared]
  | cons step steps ih =>
    rw [List.foldl_cons, ih]
    cases step with
    | doc text =>
      have hdoc : (functionDoc? (.doc text :: steps)).or d.doc
          = (functionDoc? steps).or (some text) := getLast?_cons_or text _ d.doc
      rw [hdoc]
      rfl
    | param name type default =>
      have hdoc : functionDoc? (.param name type default :: steps) = functionDoc? steps := rfl
      have hlead : leadingDocs (.param name type default :: steps) = [] := rfl
      rw [hdoc, hlead, document_nil, declared, List.reverse_cons, List.append_assoc, Draft.add,
        document, Option.or_none]
      simp
    | paramDoc text =>
      have hlead : leadingDocs (.paramDoc text :: steps) = text :: leadingDocs steps := rfl
      rw [hlead]
      obtain ⟨doc, params, misplaced⟩ := d
      cases params with
      | nil => simp [Draft.add, functionDoc?, declared, document, Step.docOfFunction?]
      | cons p rest =>
        have hdoc : (text :: leadingDocs steps).getLast?.or p.doc
            = (leadingDocs steps).getLast?.or (some text) := getLast?_cons_or text _ p.doc
        simp only [document, hdoc]
        rfl

/-- What a declaration amounts to. -/
theorem ofSteps_eq (steps : List Step) : Draft.ofSteps steps =
    ⟨functionDoc? steps, (declared steps).reverse, !(leadingDocs steps).isEmpty⟩ := by
  rw [Draft.ofSteps, foldl_add]
  simp [document]

/-! ### Parameters -/

variable {function : String} {doc : Option String}

/-- A parameter that can be checked without an error. -/
structure IsAdmissible (d : ParameterDraft) : Prop where
  typed : ∃ type, ValueType.read d.type = .ok type
  accepted : ∀ type value, ValueType.read d.type = .ok type → d.default = some value →
    type.accepts value = true
  internal : d.name.toList.head? = some '_' → ∃ value, d.default = some value

/-- What has been declared, with its type read. -/
def specified (doc : Option String) (d : ParameterDraft) (type : ValueType) : Parameter :=
  ⟨d.name, type, d.default, d.doc.or (doc.bind (paramDoc? · d.name))⟩

/-- What a declaration specifies is told by its type. -/
theorem specifies_iff {d : ParameterDraft} {p : Parameter} :
    Specifies doc d p ↔ ∃ type, ValueType.read d.type = .ok type ∧ p = specified doc d type := by
  constructor
  · intro ⟨hname, htype, hdefault, hdoc⟩
    obtain ⟨name, type, default, text⟩ := p
    dsimp only at hname htype hdefault hdoc
    subst hname hdefault hdoc
    exact ⟨type, htype, rfl⟩
  · rintro ⟨type, htype, rfl⟩
    exact ⟨rfl, htype, rfl, rfl⟩

/-- Once the type has been read, only the default is checked. -/
theorem checkParam_of_read {d : ParameterDraft} {type : ValueType}
    (h : ValueType.read d.type = .ok type) :
    checkParam function doc d = match d.default with
      | some value =>
        if type.accepts value then .ok (specified doc d type)
        else .error (.badDefault value d.name type)
      | none =>
        if d.name.toList.head? == some '_' then .error (.internalWithoutDefault d.name)
        else .ok (specified doc d type) := by
  rw [checkParam, h]
  obtain ⟨name, text, default, own⟩ := d
  cases own <;> rfl

/-- A parameter passes the check if it is admissible, and is then what has been declared. -/
theorem checkParam_eq_ok {d : ParameterDraft} {p : Parameter} :
    checkParam function doc d = .ok p ↔ IsAdmissible d ∧ Specifies doc d p := by
  rw [specifies_iff]
  -- A draft is rejected for its type first, and then for its default or for having none.
  cases htype : ValueType.read d.type with
  | error cause =>
    rw [checkParam, htype]
    simp
  | ok type =>
    rw [checkParam_of_read htype]
    simp only [Except.ok.injEq, exists_eq_left']
    constructor
    · intro h
      split at h
      · next value hdefault =>
        split at h
        · next haccepts =>
          refine ⟨⟨⟨type, htype⟩, fun type' value' htype' hvalue => ?_, fun _ => ⟨value, hdefault⟩⟩,
            (Except.ok.inj h).symm⟩
          obtain rfl := Except.ok.inj (htype.symm.trans htype')
          obtain rfl := Option.some.inj (hdefault.symm.trans hvalue)
          exact haccepts
        · cases h
      · next hdefault =>
        split at h
        · cases h
        · next hordinary =>
          exact ⟨⟨⟨type, htype⟩, by simp [hdefault], fun hname => absurd (by simpa using hname)
            hordinary⟩, (Except.ok.inj h).symm⟩
    · rintro ⟨⟨-, haccepted, hinternal⟩, rfl⟩
      split
      · next value hdefault => rw [if_pos (haccepted _ _ htype hdefault)]
      · next hdefault =>
        rw [if_neg]
        intro hname
        obtain ⟨value, hvalue⟩ := hinternal (by simpa using hname)
        rw [hdefault] at hvalue
        cases hvalue

/-- A parameter without a default passes the check unless it is internal. -/
theorem checkParam_required {name text about : String} {type : ValueType}
    (htype : ValueType.read text = .ok type) (hname : name.toList.head? ≠ some '_') :
    checkParam function (some about) ⟨name, text, none, none⟩
      = .ok ⟨name, type, none, paramDoc? about name⟩ :=
  checkParam_eq_ok.mpr
    ⟨⟨⟨type, htype⟩, fun _ _ _ hvalue => (by cases hvalue), fun h => absurd h hname⟩,
      rfl, htype, rfl, rfl⟩

/-- One with a default passes it if the default is of the type. -/
theorem checkParam_optional {name text about : String} {type : ValueType} {default : Value}
    (htype : ValueType.read text = .ok type) (haccepts : type.accepts default = true) :
    checkParam function (some about) ⟨name, text, some default, none⟩
      = .ok ⟨name, type, some default, paramDoc? about name⟩ := by
  refine checkParam_eq_ok.mpr
    ⟨⟨⟨type, htype⟩, fun other value hother hvalue => ?_, fun _ => ⟨default, rfl⟩⟩,
      rfl, htype, rfl, rfl⟩
  obtain rfl := Except.ok.inj (htype.symm.trans hother)
  obtain rfl := Option.some.inj hvalue
  exact haccepts

/-- The first of several parameters is checked before the others. -/
theorem checkParams_cons_eq_ok {seen : List String} {d : ParameterDraft}
    {drafts : List ParameterDraft} {params : List Parameter} :
    checkParams function doc seen (d :: drafts) = .ok params
      ↔ d.name ∉ seen ∧ ∃ p rest, checkParam function doc d = .ok p
        ∧ checkParams function doc (d.name :: seen) drafts = .ok rest ∧ params = p :: rest := by
  rw [checkParams]
  -- A name that was seen before fails at once; otherwise the draft is checked before the rest.
  by_cases hseen : d.name ∈ seen
  · simp [hseen]
  · rw [if_neg (by simpa using hseen)]
    cases checkParam function doc d with
    | error e => simp
    | ok p =>
      rw [Except.map_eq_ok]
      simp [hseen, eq_comm]

/-- Parameters pass the check if they are admissible and have names that have not been seen. -/
theorem checkParams_eq_ok {seen : List String} {drafts : List ParameterDraft}
    {params : List Parameter} : checkParams function doc seen drafts = .ok params
      ↔ (drafts.map (·.name)).Nodup ∧ (∀ d ∈ drafts, d.name ∉ seen)
        ∧ (∀ d ∈ drafts, IsAdmissible d) ∧ List.Forall₂ (Specifies doc) drafts params := by
  -- The induction is on the drafts, with the names that were seen left open.
  induction drafts generalizing seen params with
  | nil => cases params <;> simp [checkParams]
  | cons d drafts ih =>
    simp only [checkParams_cons_eq_ok, checkParam_eq_ok, ih, List.forall_mem_cons,
      List.forall₂_cons_left_iff, List.map_cons, List.nodup_cons]
    constructor
    · rintro ⟨hseen, p, rest, ⟨hd, hp⟩, ⟨hdistinct, hfresh, hdrafts, hrest⟩, rfl⟩
      refine ⟨⟨?_, hdistinct⟩, ⟨hseen, ?_⟩, ⟨hd, hdrafts⟩, p, rest, hp, hrest, rfl⟩
      · intro hmem
        obtain ⟨other, hother, hname⟩ := List.mem_map.mp hmem
        exact List.ne_of_not_mem_cons (hfresh other hother) hname
      · exact fun other hother => List.not_mem_of_not_mem_cons (hfresh other hother)
    · rintro ⟨⟨hname, hdistinct⟩, ⟨hseen, hfresh⟩, ⟨hd, hdrafts⟩, p, rest, hp, hrest, rfl⟩
      refine ⟨hseen, p, rest, ⟨hd, hp⟩, ⟨hdistinct, fun other hother => ?_, hdrafts, hrest⟩, rfl⟩
      refine List.not_mem_cons_of_ne_of_not_mem (fun heq => ?_) (hfresh other hother)
      exact hname (List.mem_map.mpr ⟨other, hother, heq⟩)

/-! ### Signatures -/

variable {name : String} {steps : List Step} {s : Signature}

/-- A signature is built from a consistent declaration, and is then the one that is declared. -/
theorem build_eq_ok :
    build name steps = .ok s ↔ IsConsistent name steps ∧ s.IsDeclaredBy name steps := by
  unfold build
  rw [ofSteps_eq]
  dsimp only
  rw [List.reverse_reverse]
  constructor
  · intro h
    split at h
    · cases h
    · next hplaced =>
      split at h
      · cases h
      · next hnamed =>
        obtain ⟨params, hparams, rfl⟩ := Except.map_eq_ok.mp h
        obtain ⟨hdistinct, -, hadmissible, hspecifies⟩ := checkParams_eq_ok.mp hparams
        exact ⟨⟨by simpa using hnamed, by simpa using hplaced, hdistinct,
          fun p hp => (hadmissible p hp).typed, fun p hp => (hadmissible p hp).accepted,
          fun p hp => (hadmissible p hp).internal⟩, rfl, rfl, hspecifies⟩
  · rintro ⟨hconsistent, hname, hdoc, hparams⟩
    obtain ⟨_, doc, params⟩ := s
    dsimp only at hname hdoc hparams
    subst hname hdoc
    rw [if_neg (by simp [hconsistent.placed]), if_neg (by simpa using hconsistent.named)]
    refine Except.map_eq_ok.mpr ⟨params, checkParams_eq_ok.mpr ⟨hconsistent.distinct, by simp,
      fun p hp => ?_, hparams⟩, rfl⟩
    exact ⟨hconsistent.typed p hp, hconsistent.accepted p hp, hconsistent.internal p hp⟩

/-- Parameters that pass the check one by one make a signature, if their names are distinct. -/
theorem build_of_checked {params : List Parameter} (hnamed : name ≠ "")
    (hplaced : leadingDocs steps = []) (hdistinct : ((declared steps).map (·.name)).Nodup)
    (hparams : List.Forall₂ (fun d p => checkParam name (functionDoc? steps) d = .ok p)
      (declared steps) params) : build name steps = .ok ⟨name, functionDoc? steps, params⟩ := by
  obtain ⟨hadmissible, hspecifies⟩ :=
    (List.forall₂_and_left _ _).mp (hparams.imp fun _ _ => checkParam_eq_ok.mp)
  exact build_eq_ok.mpr ⟨⟨hnamed, hplaced, hdistinct, fun p hp => (hadmissible p hp).typed,
    fun p hp => (hadmissible p hp).accepted, fun p hp => (hadmissible p hp).internal⟩,
    rfl, rfl, hspecifies⟩

/-- Types that can all be read make parameters. -/
theorem exists_specified (doc : Option String) {drafts : List ParameterDraft}
    (h : ∀ d ∈ drafts, ∃ type, ValueType.read d.type = .ok type) :
    ∃ params, List.Forall₂ (Specifies doc) drafts params := by
  induction drafts with
  | nil => exact ⟨[], .nil⟩
  | cons d drafts ih =>
    obtain ⟨⟨type, htype⟩, hrest⟩ := List.forall_mem_cons.mp h
    obtain ⟨params, hparams⟩ := ih hrest
    exact ⟨specified doc d type :: params, .cons (specifies_iff.mpr ⟨type, htype, rfl⟩) hparams⟩

/-- A consistent declaration declares a signature. -/
theorem IsConsistent.exists_isDeclaredBy (h : IsConsistent name steps) :
    ∃ s : Signature, s.IsDeclaredBy name steps := by
  obtain ⟨params, hparams⟩ := exists_specified (functionDoc? steps) h.typed
  exact ⟨⟨name, functionDoc? steps, params⟩, rfl, rfl, hparams⟩

/-- The parameters of a signature have the names that are declared. -/
theorem IsDeclaredBy.names (h : s.IsDeclaredBy name steps) :
    s.params.map (·.name) = (declared steps).map (·.name) := by
  have hnames : List.Forall₂ (fun d p => p.name = d.name) (declared steps) s.params :=
    h.params.imp fun _ _ hp => hp.name
  rw [← List.forall₂_eq_eq_eq, List.forall₂_map_left_iff, List.forall₂_map_right_iff]
  exact hnames.flip

/-- If names are distinct, a name finds the one parameter that has it. -/
theorem param?_eq_some_iff (h : (s.params.map (·.name)).Nodup) {n : String} {p : Parameter} :
    -- The names are distinct, so a parameter found by its name is the only one that has it.
    s.param? n = some p ↔ p ∈ s.params ∧ p.name = n := by
  unfold param?
  generalize s.params = params at h
  induction params with
  | nil => simp
  | cons q params ih =>
    rw [List.map_cons, List.nodup_cons] at h
    rw [List.find?_cons]
    split
    · next hq =>
      obtain rfl : q.name = n := by simpa using hq
      constructor
      · rintro ⟨⟩
        exact ⟨List.mem_cons_self, rfl⟩
      · rintro ⟨hp, hname⟩
        rcases List.mem_cons.mp hp with rfl | hp
        · rfl
        · exact absurd (List.mem_map.mpr ⟨p, hp, hname⟩) h.1
    · next hq =>
      rw [ih h.2, List.mem_cons]
      constructor
      · exact fun ⟨hp, hname⟩ => ⟨.inr hp, hname⟩
      · rintro ⟨rfl | hp, hname⟩
        · simp [hname] at hq
        · exact ⟨hp, hname⟩

/-- **Declarations.** A signature is built from a declaration if and only if the declaration is
    consistent.  It has the parameters that are declared, in order, with their types read and with
    their documentation, and a name finds the one parameter that has it. -/
theorem build_declared (name : String) (steps : List Step) :
    ((∃ s, build name steps = .ok s) ↔ IsConsistent name steps)
      ∧ ∀ s, build name steps = .ok s → s.IsDeclaredBy name steps
        ∧ ∀ n p, s.param? n = some p ↔ p ∈ s.params ∧ p.name = n := by
  simp only [build_eq_ok]
  refine ⟨⟨fun ⟨_, hconsistent, _⟩ => hconsistent, fun hconsistent => ?_⟩, ?_⟩
  · obtain ⟨s, hs⟩ := hconsistent.exists_isDeclaredBy
    exact ⟨s, hconsistent, hs⟩
  · rintro s ⟨hconsistent, hs⟩
    refine ⟨hs, fun n p => param?_eq_some_iff ?_⟩
    rw [hs.names]
    exact hconsistent.distinct

/-- The documentation of the function may come last, and then takes the place of an earlier one. -/
theorem build_declared_last :
    ∃ steps s, steps = [.doc ":param n: Ignored.", .param "n" "Optional[int]" none,
        .param "_mode" "Literal['a', 'b']" (some (.str "b")), .paramDoc "First.", .paramDoc "Own.",
        .doc ":param n: How\n  many."]
      ∧ IsConsistent "f" steps ∧ build "f" steps = .ok s ∧ s.IsDeclaredBy "f" steps
      ∧ s.params.map (·.doc) = [some "How many.", some "Own."]
      ∧ ∃ p, s.param? "_mode" = some p ∧ p.default = some (.str "b") := by
  have hliteral : ValueType.read "Literal['a', 'b']" = .ok (.literal [.str "a", .str "b"]) := rfl
  have hconsistent : IsConsistent "f" [.doc ":param n: Ignored.", .param "n" "Optional[int]" none,
      .param "_mode" "Literal['a', 'b']" (some (.str "b")), .paramDoc "First.", .paramDoc "Own.",
      .doc ":param n: How\n  many."] := by
    refine ⟨by decide, rfl, by decide, ?_, ?_, ?_⟩
    all_goals simp only [declared, List.forall_mem_cons, List.not_mem_nil, false_implies,
      implies_true, and_true]
    · exact ⟨⟨.optional .int, rfl⟩, _, hliteral⟩
    · refine ⟨nofun, fun type value htype hvalue => ?_⟩
      obtain rfl := Except.ok.inj (hliteral.symm.trans htype)
      obtain rfl := Option.some.inj hvalue
      rfl
    · exact ⟨fun hname => absurd hname (by decide), fun _ => ⟨_, rfl⟩⟩
  -- What remains are readings of one text and one literal, with both sides closed.
  obtain ⟨s, hbuild⟩ := (build_declared _ _).1.mpr hconsistent
  obtain ⟨hdeclared, hparam⟩ := (build_declared _ _).2 s hbuild
  obtain ⟨p, _, hp, hrest, hparams⟩ := List.forall₂_cons_left_iff.mp hdeclared.params
  obtain ⟨q, _, hq, hnone, rfl⟩ := List.forall₂_cons_left_iff.mp hrest
  obtain rfl := List.forall₂_nil_left_iff.mp hnone
  have hfragment : paramDoc? ":param n: How\n  many." "n" = some "How many." := rfl
  refine ⟨_, s, rfl, hconsistent, hbuild, hdeclared, ?_,
    q, (hparam _ _).mpr ⟨?_, hq.name⟩, hq.default⟩
  · rw [hparams, List.map_cons, List.map_singleton, hp.doc, hq.doc]
    exact congrArg (fun doc => [doc, some "Own."]) hfragment
  · rw [hparams]
    simp

end Questionnaire.Signature
