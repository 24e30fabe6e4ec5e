import Questionnaire.Proofs.ValueType.Range

namespace Questionnaire.ValueType

/-!
# Reading written types

Every type is written as a text from which it is read again.  What a reader finds in a bound of a
range is the number that its text stands for, so bounds are as precise as their texts.

* `Prints` — the types of which this can be expected.
* `reread` — a type with its bounds as their texts tell.
* `readWithin_written` — this is what is read.
* `read_text` — it is the type that has been written.
-/

variable {same : Float → Float → Prop} {low high : Option Float}

/-! ### Types -/

mutual

/-- A type that can be written: no union is empty, and literals and bounds have texts that are read
    again. -/
def Prints (same : Float → Float → Prop) : ValueType → Prop
  | .sequence item => Prints same item
  | .tuple types => PrintsEach same types
  | .union members => members ≠ [] ∧ PrintsEach same members
  | .optional inner => Prints same inner
  | .literal allowed => ∀ v ∈ allowed, v.IsMember
  | .ranged inner low high => Prints same inner ∧ PrintsBound same low ∧ PrintsBound same high
  | _ => True

@[inherit_doc Prints]
def PrintsEach (same : Float → Float → Prop) : List ValueType → Prop
  | [] => True
  | t :: rest => Prints same t ∧ PrintsEach same rest

end

mutual

/-- A type with its bounds as their texts tell. -/
def reread : ValueType → ValueType
  | .sequence item => .sequence (reread item)
  | .tuple types => .tuple (rereadEach types)
  | .union members => .union (rereadEach members)
  | .optional inner => .optional (reread inner)
  | .ranged inner low high => .ranged (reread inner) (rereadBound low) (rereadBound high)
  | t => t

@[inherit_doc reread]
def rereadEach : List ValueType → List ValueType
  | [] => []
  | t :: rest => reread t :: rereadEach rest

end

/-- Types are written in a row, with commas in between. -/
theorem writtenEach_eq_row (types : List ValueType) :
    writtenEach types = row (types.map written) := by
  induction types with
  | nil => rfl
  | cons t rest ih =>
    cases rest with
    | nil => rfl
    | cons u rest =>
      show written t ++ ',' :: ' ' :: writtenEach (u :: rest) = _
      rw [ih]
      rfl

/-- Values are written in a row, with commas in between. -/
theorem writtenItems_eq_row (values : List Value) :
    Value.writtenItems values = row (values.map Value.written) := by
  induction values with
  | nil => rfl
  | cons v rest ih =>
    cases rest with
    | nil => rfl
    | cons w rest =>
      show v.written ++ ',' :: ' ' :: Value.writtenItems (w :: rest) = _
      rw [ih]
      rfl

/-- A sequence is written as an application to the type of its items. -/
theorem written_sequence (item : ValueType) :
    written (.sequence item) = applied "List" (row [written item]) := rfl

/-- An optional type is written as an application to the type that may be missing. -/
theorem written_optional (inner : ValueType) :
    written (.optional inner) = applied "Optional" (row [written inner]) := rfl

/-- A tuple is written as an application to its types. -/
theorem written_tuple (types : List ValueType) :
    written (.tuple types) = applied "Tuple" (row (types.map written)) :=
  congrArg (applied "Tuple") (writtenEach_eq_row types)

/-- A union is written as an application to its members. -/
theorem written_union (members : List ValueType) :
    written (.union members) = applied "Union" (row (members.map written)) :=
  congrArg (applied "Union") (writtenEach_eq_row members)

/-- A literal is written as an application to its values. -/
theorem written_literal (allowed : List Value) :
    written (.literal allowed) = applied "Literal" (row (allowed.map Value.written)) :=
  congrArg (applied "Literal") (writtenItems_eq_row allowed)

/-- The arguments of a range are a row of two. -/
theorem written_ranged (inner : ValueType) (low high : Option Float) :
    written (.ranged inner low high) = applied "Annotated" (row [written inner,
      range (writtenBound "-∞".toList low) (writtenBound "∞".toList high)]) := by
  have htext (first comma cs comma' ds : List Char)
      (hcomma : comma = ',' :: ' ' :: (rangeName ++ ['('])) (hcomma' : comma' = [',', ' ']) :
      first ++ comma ++ cs ++ comma' ++ ds ++ [')'] = row [first, range cs ds] := by
    subst hcomma hcomma'
    simp [row, range]
  exact congrArg (applied "Annotated") (htext _ _ _ _ _ (by decide) (by decide))

/-! ### Names with arguments -/

/-- An application is a name with its arguments in brackets. -/
theorem applied_eq (name : String) (arguments : List Char) :
    applied name arguments = name.toList ++ ('[' :: arguments ++ [']']) := by
  simp [applied]

/-- An application of a word to arguments may be an argument itself. -/
theorem isArgument_applied {name : String} (hname : IsWord name.toList) {texts : List (List Char)}
    (h : ∀ cs ∈ texts, IsArgument cs) : IsArgument (applied name (row texts)) := by
  rw [applied_eq]
  exact hname.argument.append (Passes.brackets (passes_row h)) (by decide)

/-- A name with a row of arguments is read as the name and these arguments, all of which are shorter
    than the text around them. -/
theorem readWithin_applied {name : String} (hname : IsWord name.toList) {texts : List (List Char)}
    (h : ∀ cs ∈ texts, IsArgument cs) {depth : Nat}
    (hdepth : (applied name (row texts)).length ≤ depth) :
    ∃ below text, (∀ cs ∈ texts, cs.length ≤ below)
      ∧ readWithin depth (applied name (row texts))
        = readGeneric (readWithin below) name text texts := by
  -- Two brackets are taken off, so each argument is shorter than the whole by more than one.
  have hlength : (applied name (row texts)).length
      = name.toList.length + (row texts).length + 2 := by
    simp [applied]
    omega
  obtain ⟨below, rfl⟩ : ∃ below, depth = below + 1 := ⟨depth - 1, by omega⟩
  refine ⟨below, String.ofList (applied name (row texts)), fun cs hcs => ?_, ?_⟩
  · have := length_le_row hcs
    omega
  -- The name has no bracket, so the first one is that of the arguments.
  · have hplain : ∀ c ∈ name.toList, (c != '[') = true := by
      intro c hc
      have hordinary := (hname.2 c hc).1
      simp only [IsOrdinary, List.mem_cons, not_or] at hordinary
      simpa using hordinary.2.2.1
    rw [readWithin, (isArgument_applied hname h).trim, applied_eq, List.cons_append,
      List.dropWhile_append_of_pos hplain, List.takeWhile_append_of_pos hplain]
    simp [split_row h, hname.argument.trim]

/-- Only three dots make a sequence out of a tuple. -/
theorem readGeneric_tuple (readArgument : List Char → Except ReadError ValueType) (text : String)
    {arguments : List (List Char)} (h : ['.', '.', '.'] ∉ arguments) :
    readGeneric readArgument "Tuple" text arguments
      = .tuple <$> arguments.mapM readArgument := by
  rw [readGeneric]
  rintro inner rfl
  simp at h

/-- The bounds of a range are read around its comma. -/
theorem readGeneric_annotated {readArgument : List Char → Except ReadError ValueType}
    {first cs ds : List Char} {inner : ValueType} (hinner : readArgument first = .ok inner)
    (hlow : ReadsBound cs low) (hhigh : ReadsBound ds high) (text : String) :
    readGeneric readArgument "Annotated" text [first, range cs ds]
      = .ok (.ranged inner low high) := by
  rw [readGeneric, (isArgument_range hlow hhigh).trim, readRange_range hlow hhigh]
  dsimp only
  rw [hinner, hlow.reads cs hlow.argument.trim, hhigh.reads _ hhigh.argument.trim_space]
  rfl

/-- No type is written as three dots. -/
theorem written_ne_dots (t : ValueType) : written t ≠ ['.', '.', '.'] := by
  have happlied (name : String) (arguments : List Char) :
      applied name arguments ≠ ['.', '.', '.'] := by
    intro heq
    have hmem : '[' ∈ applied name arguments := by simp [applied]
    rw [heq] at hmem
    revert hmem
    decide
  cases t
  case any | int | float | bool | str | noneType | function => decide
  all_goals exact happlied _ _

/-- Values that may stand in a literal are read one by one. -/
theorem mapM_readLiteral {values : List Value} (h : ∀ v ∈ values, v.IsMember) :
    (values.map Value.written).mapM readLiteral = .ok values := by
  induction values with
  | nil => rfl
  | cons v rest ih =>
    rw [List.map_cons, List.mapM_cons, readLiteral_written (h v List.mem_cons_self),
      ih fun w hw => h w (List.mem_cons_of_mem v hw)]
    rfl

/-! ### Reading -/

mutual

/-- A written type can stand in a row. -/
theorem isArgument_written : (t : ValueType) → Prints same t → IsArgument (written t)
  -- Simple types are words; all others are applications of a word.
  | .any, _ | .int, _ | .float, _ | .bool, _ | .str, _ | .noneType, _ | .function, _ =>
    IsWord.argument (by decide)
  | .sequence item, h => by
    rw [written_sequence]
    exact isArgument_applied (by decide) (List.forall_mem_singleton.mpr (isArgument_written item h))
  | .tuple types, h => by
    rw [written_tuple]
    exact isArgument_applied (by decide) (isArgument_writtenEach types h)
  | .union members, h => by
    rw [written_union]
    exact isArgument_applied (by decide) (isArgument_writtenEach members h.2)
  | .optional inner, h => by
    rw [written_optional]
    exact isArgument_applied (by decide) (List.forall_mem_singleton.mpr (isArgument_written inner h))
  | .literal allowed, h => by
    rw [written_literal]
    refine isArgument_applied (by decide) fun cs hcs => ?_
    obtain ⟨v, hv, rfl⟩ := List.mem_map.mp hcs
    exact isArgument_member (h v hv)
  | .ranged inner low high, h => by
    obtain ⟨hinner, hlow, hhigh⟩ := h
    rw [written_ranged]
    refine isArgument_applied (by decide) (List.forall_mem_cons.mpr
      ⟨isArgument_written inner hinner, List.forall_mem_singleton.mpr ?_⟩)
    exact isArgument_range (isBound_written hlow (.inl rfl)).readsBound
      (isBound_written hhigh (.inr rfl)).readsBound

/-- Types that can be written may stand as arguments, each of them. -/
theorem isArgument_writtenEach : (types : List ValueType) → PrintsEach same types →
    ∀ cs ∈ types.map written, IsArgument cs
  | [], _ => fun _ hcs => nomatch hcs
  | t :: rest, h => List.forall_mem_cons.mpr
      ⟨isArgument_written t h.1, isArgument_writtenEach rest h.2⟩

end

mutual

/-- A written type is read as its bounds tell. -/
theorem readWithin_written : (t : ValueType) → Prints same t → ∀ depth,
    (written t).length ≤ depth → readWithin depth (written t) = .ok (reread t)
  | .any, _, depth, _ | .int, _, depth, _ | .float, _, depth, _ | .bool, _, depth, _
  | .str, _, depth, _ | .noneType, _, depth, _ | .function, _, depth, _ => by cases depth <;> rfl
  -- One level of depth is used up, and every argument fits what is left.
  | .sequence item, h, depth, hdepth => by
    rw [written_sequence] at hdepth ⊢
    obtain ⟨below, text, hbelow, hread⟩ := readWithin_applied (by decide)
      (List.forall_mem_singleton.mpr (isArgument_written item h)) hdepth
    rw [hread]
    show ValueType.sequence <$> readWithin below (written item) = _
    rw [readWithin_written item h below (hbelow _ List.mem_cons_self)]
    rfl
  | .tuple types, h, depth, hdepth => by
    rw [written_tuple] at hdepth ⊢
    obtain ⟨below, text, hbelow, hread⟩ := readWithin_applied (by decide)
      (isArgument_writtenEach types h) hdepth
    -- No type is written as three dots, so this is no sequence.
    have hdots : ['.', '.', '.'] ∉ types.map written := by
      intro hmem
      obtain ⟨t, -, ht⟩ := List.mem_map.mp hmem
      exact written_ne_dots t ht
    rw [hread, readGeneric_tuple _ _ hdots, mapM_readWithin_written types h below hbelow]
    rfl
  | .union members, h, depth, hdepth => by
    obtain ⟨hne, heach⟩ := h
    rw [written_union] at hdepth ⊢
    obtain ⟨below, text, hbelow, hread⟩ := readWithin_applied (by decide)
      (isArgument_writtenEach members heach) hdepth
    rw [hread]
    show (if (members.map written).isEmpty then Except.error (ReadError.emptyUnion text)
      else ValueType.union <$> (members.map written).mapM (readWithin below)) = _
    rw [if_neg (by simpa using hne), mapM_readWithin_written members heach below hbelow]
    rfl
  | .optional inner, h, depth, hdepth => by
    rw [written_optional] at hdepth ⊢
    obtain ⟨below, text, hbelow, hread⟩ := readWithin_applied (by decide)
      (List.forall_mem_singleton.mpr (isArgument_written inner h)) hdepth
    rw [hread]
    show ValueType.optional <$> readWithin below (written inner) = _
    rw [readWithin_written inner h below (hbelow _ List.mem_cons_self)]
    rfl
  | .literal allowed, h, depth, hdepth => by
    rw [written_literal] at hdepth ⊢
    have hmembers : ∀ cs ∈ allowed.map Value.written, IsArgument cs := by
      intro cs hcs
      obtain ⟨v, hv, rfl⟩ := List.mem_map.mp hcs
      exact isArgument_member (h v hv)
    obtain ⟨below, text, -, hread⟩ := readWithin_applied (by decide) hmembers hdepth
    rw [hread]
    show ValueType.literal <$> (allowed.map Value.written).mapM readLiteral = _
    rw [mapM_readLiteral h]
    rfl
  | .ranged inner low high, h, depth, hdepth => by
    obtain ⟨hinner, hlow, hhigh⟩ := h
    have hlow' := (isBound_written hlow (.inl rfl)).readsBound
    have hhigh' := (isBound_written hhigh (.inr rfl)).readsBound
    have hrange := isArgument_range hlow' hhigh'
    rw [written_ranged] at hdepth ⊢
    obtain ⟨below, text, hbelow, hread⟩ := readWithin_applied (by decide)
      (List.forall_mem_cons.mpr ⟨isArgument_written inner hinner,
        List.forall_mem_singleton.mpr hrange⟩) hdepth
    rw [hread, readGeneric_annotated
      (readWithin_written inner hinner below (hbelow _ List.mem_cons_self)) hlow' hhigh']
    rfl

/-- Types that can be written are read one by one. -/
theorem mapM_readWithin_written : (types : List ValueType) → PrintsEach same types → ∀ depth,
    (∀ cs ∈ types.map written, cs.length ≤ depth) →
      (types.map written).mapM (readWithin depth) = .ok (rereadEach types)
  | [], _, _, _ => rfl
  | t :: rest, h, depth, hdepth => by
    obtain ⟨ht, hrest⟩ := List.forall_mem_cons.mp hdepth
    rw [List.map_cons, List.mapM_cons, readWithin_written t h.1 depth ht,
      mapM_readWithin_written rest h.2 depth hrest]
    rfl

end

/-! ### What is read is what has been written -/

/-- Values that may stand in a literal are equal to themselves, which not every number is. -/
theorem beq_members {values : List Value} (h : ∀ v ∈ values, v.IsMember) :
    (values == values) = true := by
  induction values with
  | nil => rfl
  | cons v rest ih =>
    have hv : (v == v) = true := by
      have hmember := h v List.mem_cons_self
      cases v with
      | none => rfl
      | bool b => exact beq_self_eq_true b
      | int i => exact beq_self_eq_true i
      | str s => exact beq_self_eq_true s
      | float x => exact hmember.elim
      | seq items => exact hmember.elim
      | function name => exact hmember.elim
    rw [List.cons_beq_cons, hv, ih fun w hw => h w (List.mem_cons_of_mem v hw)]
    rfl

/-- A bound is missing on both sides, or it is read as a number that is the same. -/
theorem rereadBound_same (h : PrintsBound same low) :
    low = none ∧ rereadBound low = none
      ∨ ∃ x y, low = some x ∧ rereadBound low = some y ∧ same y x := by
  cases low with
  | none => exact .inl ⟨rfl, rfl⟩
  | some x =>
    obtain ⟨-, y, hread, hsame⟩ := h
    exact .inr ⟨x, y, rfl, hread, hsame⟩

/-- A bound that is read is equal to the one that was written. -/
theorem beqBound_reread (h : PrintsBound (fun y x => (y == x) = true) low) :
    beqBound (rereadBound low) low = true := by
  rcases rereadBound_same h with ⟨rfl, hread⟩ | ⟨x, y, rfl, hread, hsame⟩
  · rfl
  · rw [hread]
    exact hsame

/-- A bound is read as it was if its text tells it exactly. -/
theorem rereadBound_eq (h : PrintsBound Eq low) : rereadBound low = low := by
  rcases rereadBound_same h with ⟨rfl, hread⟩ | ⟨x, y, rfl, hread, rfl⟩
  · rfl
  · exact hread

mutual

/-- Where bounds are read as numbers that compare as equal, so is the type. -/
theorem beq_reread : (t : ValueType) → Prints (fun y x => (y == x) = true) t →
    beq (reread t) t = true
  | .any, _ | .int, _ | .float, _ | .bool, _ | .str, _ | .noneType, _ | .function, _ => rfl
  | .sequence item, h => beq_reread item h
  | .tuple types, h => beqEach_reread types h
  | .union members, h => beqEach_reread members h.2
  | .optional inner, h => beq_reread inner h
  | .literal _, h => beq_members h
  | .ranged inner low high, h => by
    obtain ⟨hinner, hlow, hhigh⟩ := h
    show (beq (reread inner) inner && beqBound (rereadBound low) low
      && beqBound (rereadBound high) high) = true
    rw [beq_reread inner hinner, beqBound_reread hlow, beqBound_reread hhigh]
    rfl

/-- Types are equal, one by one, to those that are read. -/
theorem beqEach_reread : (types : List ValueType) →
    PrintsEach (fun y x => (y == x) = true) types → beqEach (rereadEach types) types = true
  | [], _ => rfl
  | t :: rest, h => by
    show (beq (reread t) t && beqEach (rereadEach rest) rest) = true
    rw [beq_reread t h.1, beqEach_reread rest h.2]
    rfl

end

mutual

/-- Where bounds are read as they are, so is the type. -/
theorem reread_eq : (t : ValueType) → Prints Eq t → reread t = t
  | .any, _ | .int, _ | .float, _ | .bool, _ | .str, _ | .noneType, _ | .function, _ => rfl
  | .sequence item, h => congrArg ValueType.sequence (reread_eq item h)
  | .tuple types, h => congrArg ValueType.tuple (rereadEach_eq types h)
  | .union members, h => congrArg ValueType.union (rereadEach_eq members h.2)
  | .optional inner, h => congrArg ValueType.optional (reread_eq inner h)
  | .literal _, _ => rfl
  | .ranged inner low high, h => by
    obtain ⟨hinner, hlow, hhigh⟩ := h
    rw [reread, reread_eq inner hinner, rereadBound_eq hlow, rereadBound_eq hhigh]

/-- If all bounds are told exactly, types are read as they were, one by one. -/
theorem rereadEach_eq : (types : List ValueType) → PrintsEach Eq types → rereadEach types = types
  | [], _ => rfl
  | t :: rest, h => by rw [rereadEach, reread_eq t h.1, rereadEach_eq rest h.2]

end

/-- **Writing and reading.** A type is read from its text, up to the equality of the numbers that
    bound its ranges.  Where each of these is read as it is, so is the type. -/
theorem read_text (t : ValueType) :
    (Prints (fun y x => (y == x) = true) t → ∃ u, read t.text = .ok u ∧ (u == t) = true)
      ∧ (Prints Eq t → read t.text = .ok t) := by
  have hread {same : Float → Float → Prop} (h : Prints same t) : read t.text = .ok (reread t) := by
    rw [read, text, String.toList_ofList]
    exact readWithin_written t h _ (Nat.le_refl _)
  refine ⟨fun h => ⟨reread t, hread h, beq_reread t h⟩, fun h => ?_⟩
  rw [hread h, reread_eq t h]

/-- Commas, brackets and a quote in a string, a type without arguments, and a bound with a point. -/
theorem read_text_nested :
    ∃ t : ValueType, t = .optional (.union [.literal [.str "a,b] ('", .int (-3), .none], .tuple [],
        .ranged .float (some 0.5) none])
      ∧ t.text = "Optional[Union[Literal[\"a,b] ('\", -3, None], Tuple[], "
        ++ "Annotated[float, ValueRange(0.5, ∞)]]]"
      ∧ read t.text = .ok t ∧ ∃ u, read t.text = .ok u ∧ (u == t) = true := by
  have hbound : (0.5 : Float).isFinite = true
      ∧ Number.readFloat? (writtenBound [] (some 0.5)) = some 0.5 := ⟨rfl, rfl⟩
  have hliteral : ∀ v ∈ [.str "a,b] ('", .int (-3), .none], Value.IsMember v := by
    simp only [List.forall_mem_cons, List.not_mem_nil, false_imp_iff, implies_true, and_true]
    exact ⟨⟨by decide, by decide⟩, trivial, trivial⟩
  have hprints {same : Float → Float → Prop} (hsame : same 0.5 0.5) :
      Prints same (.optional (.union [.literal [.str "a,b] ('", .int (-3), .none], .tuple [],
        .ranged .float (some 0.5) none])) :=
    ⟨by simp, hliteral, trivial, ⟨trivial, ⟨hbound.1, _, hbound.2, hsame⟩, trivial⟩, trivial⟩
  refine ⟨_, rfl, by rfl, (read_text _).2 (hprints rfl), (read_text _).1 (hprints rfl)⟩

end Questionnaire.ValueType
