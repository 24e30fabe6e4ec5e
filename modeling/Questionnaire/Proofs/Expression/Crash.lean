import Questionnaire.Expression.Evaluate
import Questionnaire.Proofs.Except
import Questionnaire.Proofs.Expression.Tree

namespace Questionnaire.Expression

/-!
# Evaluations that break off

An evaluation breaks off in one place only: where it takes a part of a string and cuts a character.
Everything else that goes wrong is a failure that can be reported.

* `Unbroken` — a computation that does not break off; `Unbroken.bind` puts such ones together.
* `function?_unbroken`, `apply_unbroken` — all functions but one, and so all operators but one call.
* `CutsCharacter`, `substring_eq_crash` — the arguments on which that one function breaks off.
* `Tree.Applies` — the evaluation of a tree comes to an operator on values.
* `evalTree_eq_crash`, `evaluate_eq_crash` — the trees and texts whose evaluation breaks off.
-/

variable {α β : Type}

/-- A computation has a result or a failure that can be reported. -/
def Unbroken (x : Except Fault α) : Prop := x ≠ .error .crash

/-- A result is not broken off. -/
@[simp] theorem unbroken_ok (a : α) : Unbroken (.ok a : Except Fault α) := nofun

/-- A failure is not broken off either, for it can be reported. -/
@[simp] theorem unbroken_failure (cause : Failure) :
    Unbroken (.error (.failure cause) : Except Fault α) := nofun

/-- Two computations of which the first one does not break off break off where the second one
    does. -/
theorem bind_eq_crash {x : Except Fault α} {f : α → Except Fault β} (hx : Unbroken x) :
    x >>= f = .error .crash ↔ ∃ a, x = .ok a ∧ f a = .error .crash :=
  Except.bind_eq_error.trans (or_iff_right hx)

/-- Computations one after the other do not break off if none of them does. -/
theorem Unbroken.bind {x : Except Fault α} {f : α → Except Fault β} (hx : Unbroken x)
    (hf : ∀ a, Unbroken (f a)) : Unbroken (x >>= f) := fun h =>
  have ⟨a, _, ha⟩ := (bind_eq_crash hx).mp h
  hf a ha

/-- A value that is no string is reported. -/
@[simp] theorem unbroken_asString (v : Value) : Unbroken (asString v) := by
  cases v <;> simp [asString]

/-- A value that is no integer is reported. -/
@[simp] theorem unbroken_asInteger (v : Value) : Unbroken (asInteger v) := by
  cases v <;> simp [asInteger]

/-- A value that is no truth value is reported. -/
@[simp] theorem unbroken_asBoolean (v : Value) : Unbroken (asBoolean v) := by
  cases v <;> simp [asBoolean]

/-- A value that is no number is reported. -/
@[simp] theorem unbroken_asNumber (v : Value) : Unbroken (asNumber v) := by
  unfold asNumber
  split <;> simp

/-- A value that is neither a number nor a string is reported. -/
@[simp] theorem unbroken_checkNumberOrString (v : Value) : Unbroken (checkNumberOrString v) := by
  cases v <;> simp [checkNumberOrString]

/-- A value that is no tuple is reported. -/
@[simp] theorem unbroken_asTuple (v : Value) : Unbroken (asTuple v) := by
  cases v <;> simp [asTuple]

/-- A value that is no pair is reported. -/
@[simp] theorem unbroken_asPair (v : Value) : Unbroken (asPair v) := by
  apply (unbroken_asTuple v).bind
  intro items
  split <;> simp

/-- A value that is no triple is reported. -/
@[simp] theorem unbroken_asTriple (v : Value) : Unbroken (asTriple v) := by
  apply (unbroken_asTuple v).bind
  intro items
  split <;> simp

/-- A value that cannot be looked for in a tuple is reported. -/
@[simp] theorem unbroken_checkScalar (v : Value) : Unbroken (checkScalar v) := by
  cases v <;> simp [checkScalar]

/-! ### Functions -/

/-- A function of a number fails only where it gets none, and that is reported. -/
@[simp] theorem unbroken_ofNumber (f : Float → Float) (v : Value) : Unbroken (ofNumber f v) :=
  (unbroken_asNumber v).bind fun _ => unbroken_ok _

/-- A test of a number fails only where it gets none. -/
@[simp] theorem unbroken_testOfNumber (f : Float → Bool) (v : Value) :
    Unbroken (testOfNumber f v) :=
  (unbroken_asNumber v).bind fun _ => unbroken_ok _

/-- A function of a string fails only where it gets none. -/
@[simp] theorem unbroken_ofString (f : String → String) (v : Value) : Unbroken (ofString f v) :=
  (unbroken_asString v).bind fun _ => unbroken_ok _

/-- A function of two numbers fails only where it does not get a pair of them. -/
@[simp] theorem unbroken_ofNumbers (f : Float → Float → Float) (v : Value) :
    Unbroken (ofNumbers f v) :=
  (unbroken_asPair v).bind fun (a, b) => (unbroken_asNumber a).bind fun _ =>
    (unbroken_asNumber b).bind fun _ => unbroken_ok _

/-- A function of two integers fails only where it does not get a pair of them. -/
@[simp] theorem unbroken_ofIntegers (f : Int64 → Int64 → Int64) (v : Value) :
    Unbroken (ofIntegers f v) :=
  (unbroken_asPair v).bind fun (a, b) => (unbroken_asInteger a).bind fun _ =>
    (unbroken_asInteger b).bind fun _ => unbroken_ok _

/-- A magnitude is missing only where there is no number. -/
@[simp] theorem unbroken_magnitude (v : Value) : Unbroken (magnitude v) := by
  cases v <;> simp [magnitude]

/-- Extremes are looked for item by item, and an item that is no number is reported. -/
theorem unbroken_extremes (pickInt : Int64 → Int64 → Int64) (pick : Float → Float → Float)
    (i : Int64) (x : Float) (items : List Value) : Unbroken (extremes pickInt pick i x items) := by
  induction items generalizing i x with
  | nil => exact unbroken_ok _
  | cons item items ih =>
    cases item with
    | int j => exact ih _ _
    | float y => exact ih _ _
    | _ => exact unbroken_failure _

/-- The least number of a tuple is found, or a failure is reported. -/
@[simp] theorem unbroken_least (v : Value) : Unbroken (least v) :=
  (unbroken_asTuple v).bind fun _ => (unbroken_extremes _ _ _ _ _).bind fun _ => unbroken_ok _

/-- The greatest number of a tuple is found, or a failure is reported. -/
@[simp] theorem unbroken_greatest (v : Value) : Unbroken (greatest v) :=
  (unbroken_asTuple v).bind fun _ => (unbroken_extremes _ _ _ _ _).bind fun _ => unbroken_ok _

/-- A choice fails only where there is no truth value to choose by. -/
@[simp] theorem unbroken_choose (v : Value) : Unbroken (choose v) :=
  (unbroken_asTriple v).bind fun (a, _, _) => (unbroken_asBoolean a).bind fun _ => unbroken_ok _

/-- Looking for a scalar in a tuple fails only where one of the two is none. -/
@[simp] theorem unbroken_holds (v : Value) : Unbroken (holds v) := by
  apply (unbroken_asPair v).bind
  rintro ⟨items, item⟩
  cases items with
  | seq items => exact (unbroken_checkScalar item).bind fun _ => unbroken_ok _
  | _ => exact unbroken_failure _

/-- Scalars are checked one after the other. -/
theorem unbroken_forM_checkScalar (items : List Value) : Unbroken (items.forM checkScalar) := by
  induction items with
  | nil => exact unbroken_ok _
  | cons item items ih => exact (unbroken_checkScalar item).bind fun _ => ih

/-- Looking for several scalars fails where looking for one of them would. -/
@[simp] theorem unbroken_holdsAny (v : Value) : Unbroken (holdsAny v) := by
  apply (unbroken_asPair v).bind
  rintro ⟨items, wanted⟩
  cases items with
  | seq items =>
    cases wanted with
    | seq wanted => exact (unbroken_forM_checkScalar wanted).bind fun _ => unbroken_ok _
    | _ => exact unbroken_failure _
  | _ => exact unbroken_failure _

/-- A size is missing only where there is neither a string nor a tuple. -/
@[simp] theorem unbroken_size (v : Value) : Unbroken (size v) := by
  cases v <;> simp [size]

/-- List brackets never fail. -/
@[simp] theorem unbroken_listOf (v : Value) : Unbroken (listOf v) := by
  cases v <;> simp [listOf]

/-- A complement is missing only where there is no integer. -/
@[simp] theorem unbroken_complement (v : Value) :
    Unbroken (do .ok (.int (~~~ (← asInteger v))) : Except Fault Value) :=
  (unbroken_asInteger v).bind fun _ => unbroken_ok _

/-- Every value has a text. -/
@[simp] theorem unbroken_textOf (v : Value) : Unbroken (textOf v) := by
  cases v <;> simp [textOf]

/-- No function breaks off, except for the one that takes parts of strings. -/
theorem function?_unbroken {name : String} {f : Function} (h : function? name = some f)
    (hname : name ≠ "str::substring") (v : Value) : Unbroken (f v) := by
  unfold function? at h
  split at h
  case h_44 => exact absurd rfl hname
  case h_51 => cases h
  all_goals
    obtain rfl := Option.some.inj h
    simp [shapeOf]

/-! ### Parts of strings -/

/-- Two parts come apart behind the bytes that the first one fills. -/
theorem splitBytes_append (front back : List Char) :
    splitBytes (String.ofList front).utf8ByteSize (front ++ back) = some (front, back) := by
  induction front with
  | nil => cases back <;> simp [splitBytes]
  | cons c front ih =>
    have hc := c.utf8Size_pos
    have hsize : (String.ofList (c :: front)).utf8ByteSize
        = (String.ofList front).utf8ByteSize + c.utf8Size := by
      rw [Nat.add_comm]
      simp
    rw [hsize, List.cons_append, splitBytes, if_neg (by omega), if_neg (by omega),
      Nat.add_sub_cancel, ih]
    rfl

/-- Characters come apart behind those in front that fill the bytes. -/
theorem splitBytes_eq_some {n : Nat} {cs front back : List Char} :
    splitBytes n cs = some (front, back)
      ↔ front ++ back = cs ∧ (String.ofList front).utf8ByteSize = n := by
  constructor
  -- The induction is on the characters, of which each takes its bytes from the count.
  · intro h
    induction cs generalizing n front with
    | nil =>
      rw [splitBytes] at h
      split at h
      · next hn =>
        obtain ⟨rfl, rfl⟩ := Prod.mk.inj (Option.some.inj h)
        exact ⟨rfl, hn.symm⟩
      · cases h
    | cons c cs ih =>
      rw [splitBytes] at h
      split at h
      · next hn =>
        obtain ⟨rfl, rfl⟩ := Prod.mk.inj (Option.some.inj h)
        exact ⟨rfl, hn.symm⟩
      · split at h
        · cases h
        · obtain ⟨⟨front', back'⟩, hrest, hparts⟩ := Option.map_eq_some_iff.mp h
          obtain ⟨rfl, rfl⟩ := Prod.mk.inj hparts
          obtain ⟨rfl, hsize⟩ := ih hrest
          refine ⟨rfl, ?_⟩
          simp
          omega
  · rintro ⟨rfl, rfl⟩
    exact splitBytes_append front back

/-- A string comes apart at a place exactly where a character begins, or at its end. -/
theorem exists_splitBytes {s : String} {n : Nat} :
    (∃ parts, splitBytes n s.toList = some parts) ↔ String.Pos.Raw.IsValid s ⟨n⟩ := by
  rw [String.Pos.Raw.isValid_iff_exists_append]
  constructor
  · rintro ⟨⟨front, back⟩, h⟩
    obtain ⟨happend, hsize⟩ := splitBytes_eq_some.mp h
    refine ⟨.ofList front, .ofList back, ?_, ?_⟩
    · rw [← String.ofList_append, happend, String.ofList_toList]
    · simp [String.rawEndPos, hsize]
  · rintro ⟨front, back, rfl, hsize⟩
    refine ⟨(front.toList, back.toList), splitBytes_eq_some.mpr ⟨?_, ?_⟩⟩
    · exact String.toList_append.symm
    · simpa [String.rawEndPos] using hsize.symm

/-- Where both parts of a string can be taken, so can the part between them. -/
theorem splitBytes_between {s : String} {first last : Nat} {front back : List Char}
    (hle : first ≤ last) (h : splitBytes first s.toList = some (front, back)) :
    (∃ parts, splitBytes (last - first) back = some parts) ↔ String.Pos.Raw.IsValid s ⟨last⟩ := by
  obtain ⟨happend, hfirst⟩ := splitBytes_eq_some.mp h
  rw [← exists_splitBytes]
  constructor
  · rintro ⟨⟨middle, rest⟩, hmiddle⟩
    obtain ⟨rfl, hsize⟩ := splitBytes_eq_some.mp hmiddle
    refine ⟨(front ++ middle, rest), splitBytes_eq_some.mpr ⟨by simp [happend], ?_⟩⟩
    rw [String.ofList_append, String.utf8ByteSize_append]
    omega
  · rintro ⟨⟨front', rest⟩, hlast⟩
    obtain ⟨happend', hsize⟩ := splitBytes_eq_some.mp hlast
    obtain ⟨middle, rfl, rfl⟩ | ⟨middle, rfl, rfl⟩ :=
      List.append_eq_append_iff.mp (happend.trans happend'.symm)
    · refine ⟨(middle, rest), splitBytes_eq_some.mpr ⟨rfl, ?_⟩⟩
      rw [String.ofList_append, String.utf8ByteSize_append] at hsize
      omega
    · -- The longer part in front is not shorter than the other one, so nothing lies between.
      rw [String.ofList_append, String.utf8ByteSize_append] at hfirst
      refine ⟨([], back), splitBytes_eq_some.mpr ⟨rfl, ?_⟩⟩
      simp
      omega

/-- A slice within a string breaks off exactly at a place inside a character. -/
theorem slice_eq_crash {s : String} {first last : Nat} :
    slice s first last = .error .crash ↔ first ≤ last ∧ last ≤ s.utf8ByteSize ∧
      ¬ (String.Pos.Raw.IsValid s ⟨first⟩ ∧ String.Pos.Raw.IsValid s ⟨last⟩) := by
  simp only [slice, Bool.or_eq_true, decide_eq_true_eq]
  split
  · next houtside =>
    -- Places out of order, or beyond the end, are reported.
    refine iff_of_false nofun ?_
    rintro ⟨hle, hsize, -⟩
    omega
  · next hwithin =>
    have hle : first ≤ last := by omega
    have hsize : last ≤ s.utf8ByteSize := by omega
    simp only [hle, hsize, true_and]
    cases hfront : splitBytes first s.toList with
    | none =>
      have hcut : ¬ String.Pos.Raw.IsValid s ⟨first⟩ := by simp [← exists_splitBytes, hfront]
      exact iff_of_true rfl fun h => hcut h.1
    | some parts =>
      obtain ⟨front, back⟩ := parts
      have hvalid : String.Pos.Raw.IsValid s ⟨first⟩ := exists_splitBytes.mp ⟨_, hfront⟩
      have hlast := splitBytes_between hle hfront
      cases hmiddle : splitBytes (last - first) back with
      | none =>
        have hcut : ¬ String.Pos.Raw.IsValid s ⟨last⟩ := by simp [← hlast, hmiddle]
        exact iff_of_true (by simp only [hmiddle]) fun h => hcut h.2
      | some parts =>
        have hvalid' : String.Pos.Raw.IsValid s ⟨last⟩ := hlast.mp ⟨_, hmiddle⟩
        exact iff_of_false (by simp [hmiddle]) fun hcut => hcut ⟨hvalid, hvalid'⟩

/-- Arguments of `str::substring` that name a place inside a character: a string with the place of
    a part up to its end, or with the two places of a part. -/
inductive CutsCharacter : Value → Prop where
  | suffix {s : String} {first : Int64} (hfirst : 0 ≤ first)
      (hsize : first.toInt.toNat ≤ s.utf8ByteSize)
      (hcut : ¬ String.Pos.Raw.IsValid s ⟨first.toInt.toNat⟩) :
      CutsCharacter (.seq [.str s, .int first])
  | between {s : String} {first last : Int64} (hfirst : 0 ≤ first) (hle : first ≤ last)
      (hsize : last.toInt.toNat ≤ s.utf8ByteSize)
      (hcut : ¬ (String.Pos.Raw.IsValid s ⟨first.toInt.toNat⟩
        ∧ String.Pos.Raw.IsValid s ⟨last.toInt.toNat⟩)) :
      CutsCharacter (.seq [.str s, .int first, .int last])

/-- Only a string is taken as one. -/
theorem asString_eq_ok {v : Value} {s : String} : asString v = .ok s ↔ v = .str s := by
  cases v <;> simp [asString]

/-- Only an integer is taken as one. -/
theorem asInteger_eq_ok {v : Value} {i : Int64} : asInteger v = .ok i ↔ v = .int i := by
  cases v <;> simp [asInteger]

/-- Only a tuple is taken as one. -/
theorem asTuple_eq_ok {v : Value} {items : List Value} :
    asTuple v = .ok items ↔ v = .seq items := by
  cases v <;> simp [asTuple]

/-- A place is an integer that is not negative. -/
theorem asPlace_eq_ok {v : Value} {n : Nat} :
    asPlace v = .ok n ↔ ∃ i : Int64, v = .int i ∧ 0 ≤ i ∧ i.toInt.toNat = n := by
  rw [asPlace, Except.bind_eq_ok]
  simp only [asInteger_eq_ok]
  refine exists_congr fun i => and_congr_right fun _ => ?_
  split
  · next h => simp [Int64.not_le.mpr h]
  · next h => simp [Int64.not_lt.mp h]

/-- What is no place is reported. -/
@[simp] theorem unbroken_asPlace (v : Value) : Unbroken (asPlace v) := by
  apply (unbroken_asInteger v).bind
  intro i
  split <;> simp

/-- Places are in the order of the integers that give them. -/
theorem toNat_le_toNat {i j : Int64} (hi : 0 ≤ i) (hj : 0 ≤ j) :
    i.toInt.toNat ≤ j.toInt.toNat ↔ i ≤ j := by
  rw [Int64.le_iff_toInt_le] at *
  simp at hi hj
  omega

/-- The string function breaks off exactly on arguments that cut a character. -/
theorem substring_eq_crash {v : Value} : substring v = .error .crash ↔ CutsCharacter v := by
  rw [substring, bind_eq_crash (unbroken_asTuple v)]
  simp only [asTuple_eq_ok]
  -- With two operands the text is cut once, and with three it is cut twice.
  constructor
  · rintro ⟨items, rfl, h⟩
    split at h
    · next text place =>
      obtain ⟨s, htext, h⟩ := (bind_eq_crash (unbroken_asString text)).mp h
      obtain ⟨first, hplace, h⟩ := (bind_eq_crash (unbroken_asPlace place)).mp h
      obtain rfl := asString_eq_ok.mp htext
      obtain ⟨i, rfl, hi, rfl⟩ := asPlace_eq_ok.mp hplace
      obtain ⟨hle, -, hcut⟩ := slice_eq_crash.mp h
      exact .suffix hi hle fun hfirst => hcut ⟨hfirst, String.Pos.Raw.isValid_rawEndPos⟩
    · next text front back =>
      obtain ⟨s, htext, h⟩ := (bind_eq_crash (unbroken_asString text)).mp h
      obtain ⟨first, hfirst, h⟩ := (bind_eq_crash (unbroken_asPlace front)).mp h
      obtain ⟨last, hlast, h⟩ := (bind_eq_crash (unbroken_asPlace back)).mp h
      obtain rfl := asString_eq_ok.mp htext
      obtain ⟨i, rfl, hi, rfl⟩ := asPlace_eq_ok.mp hfirst
      obtain ⟨j, rfl, hj, rfl⟩ := asPlace_eq_ok.mp hlast
      obtain ⟨hle, hsize, hcut⟩ := slice_eq_crash.mp h
      exact .between hi ((toNat_le_toNat hi hj).mp hle) hsize hcut
    · cases h
  · rintro (⟨hfirst, hsize, hcut⟩ | ⟨hfirst, hle, hsize, hcut⟩)
    · refine ⟨_, rfl, ?_⟩
      show (asPlace _ >>= fun first => slice _ first _) = _
      rw [asPlace_eq_ok.mpr ⟨_, rfl, hfirst, rfl⟩]
      exact slice_eq_crash.mpr ⟨hsize, Nat.le_refl _, fun h => hcut h.1⟩
    · refine ⟨_, rfl, ?_⟩
      have hlast := Int64.le_trans hfirst hle
      show (asPlace _ >>= fun first => asPlace _ >>= fun last => slice _ first last) = _
      rw [asPlace_eq_ok.mpr ⟨_, rfl, hfirst, rfl⟩, asPlace_eq_ok.mpr ⟨_, rfl, hlast, rfl⟩]
      exact slice_eq_crash.mpr ⟨(toNat_le_toNat hfirst hlast).mpr hle, hsize, hcut⟩

/-! ### Operators -/

/-- An operator of two operands does not break off if its function does not. -/
theorem Unbroken.binary {f : Value → Value → Except Fault Value} (hf : ∀ a b, Unbroken (f a b))
    (operands : List Value) : Unbroken (binary f operands) := by
  unfold Expression.binary
  split
  · exact hf _ _
  · exact unbroken_failure _

/-- An operator of one operand does not break off if its function does not. -/
theorem Unbroken.unary {f : Value → Except Fault Value} (hf : ∀ a, Unbroken (f a))
    (operands : List Value) : Unbroken (unary f operands) := by
  unfold Expression.unary
  split
  · exact hf _
  · exact unbroken_failure _

/-- An integer that is out of range is reported. -/
@[simp] theorem unbroken_arithmetic (operation : IntegerOperation)
    (exact : Int → Int → Option Int) (rounded : Float → Float → Float) (a b : Value) :
    Unbroken (arithmetic operation exact rounded a b) :=
  (unbroken_asNumber a).bind fun _ => (unbroken_asNumber b).bind fun _ => by
    split
    · split <;> simp
    · simp

/-- A sum fails only where its operands are neither two numbers nor two strings. -/
@[simp] theorem unbroken_sum (a b : Value) : Unbroken (sum a b) :=
  (unbroken_checkNumberOrString a).bind fun _ => (unbroken_checkNumberOrString b).bind fun _ => by
    split <;> simp

/-- A comparison fails only where its operands are not of one kind. -/
@[simp] theorem unbroken_comparison (onStrings : String → String → Bool)
    (onIntegers : Int64 → Int64 → Bool) (onNumbers : Float → Float → Bool) (a b : Value) :
    Unbroken (comparison onStrings onIntegers onNumbers a b) :=
  (unbroken_checkNumberOrString a).bind fun _ => (unbroken_checkNumberOrString b).bind fun _ => by
    split
    · simp
    · simp
    · exact (unbroken_asNumber a).bind fun _ => (unbroken_asNumber b).bind fun _ => unbroken_ok _

/-- A negated integer that is out of range is reported. -/
@[simp] theorem unbroken_negation (a : Value) : Unbroken (negation a) := by
  unfold negation
  split
  · split <;> simp
  · exact (unbroken_asNumber _).bind fun _ => unbroken_ok _

/-- No operator breaks off, except for the call of the function that takes parts of strings. -/
theorem apply_unbroken {op : Operator} (hop : op ≠ .call "str::substring") (operands : List Value) :
    Unbroken (apply op operands) := by
  -- Only `str::substring` cuts a text; all others fail at most with a fault.
  cases op with
  | add => exact .binary unbroken_sum operands
  | subtract | multiply | divide | modulo => exact .binary (unbroken_arithmetic _ _ _) operands
  | greater | less | greaterEqual | lessEqual =>
    exact .binary (unbroken_comparison _ _ _) operands
  | equal | notEqual => exact .binary (fun _ _ => unbroken_ok _) operands
  | power =>
    exact .binary (fun a b => (unbroken_asNumber a).bind fun _ =>
      (unbroken_asNumber b).bind fun _ => unbroken_ok _) operands
  | and | or =>
    exact .binary (fun a b => (unbroken_asBoolean a).bind fun _ =>
      (unbroken_asBoolean b).bind fun _ => unbroken_ok _) operands
  | negate => exact .unary unbroken_negation operands
  | not => exact .unary (fun a => (unbroken_asBoolean a).bind fun _ => unbroken_ok _) operands
  | call name =>
    refine .unary (fun v => ?_) operands
    split
    · next f hf => exact function?_unbroken hf (fun h => hop (congrArg _ h)) v
    · exact unbroken_failure _
  | _ => simp [apply]

/-- An operator breaks off exactly where it takes a part of a string and cuts a character. -/
theorem apply_eq_crash {op : Operator} {operands : List Value} :
    apply op operands = .error .crash
      ↔ op = .call "str::substring" ∧ ∃ v, operands = [v] ∧ CutsCharacter v := by
  constructor
  · intro h
    have hop : op = .call "str::substring" := by
      by_contra hop
      exact apply_unbroken hop operands h
    subst hop
    change unary substring operands = _ at h
    unfold unary at h
    split at h
    · next v => exact ⟨rfl, v, rfl, substring_eq_crash.mp h⟩
    · cases h
  · rintro ⟨rfl, v, rfl, hcuts⟩
    exact substring_eq_crash.mpr hcuts

/-! ### Trees -/

/-- The evaluation of a tree comes to an operator on values: in the tree itself when its operands
    have values, or in an operand when those in front of it have values. -/
inductive Tree.Applies (op : Operator) : Tree → List Value → Prop where
  | bare : Applies op (.bare op) []
  | applied {earlier : List Tree} {latest : Tree} {vs : List Value}
      (hvs : evalEarlier (latest :: earlier) = .ok vs) :
      Applies op (.over op earlier latest) vs.reverse
  | operand {above : Operator} {earlier later before : List Tree} {latest t : Tree}
      {us vs : List Value} (hsplit : latest :: earlier = later ++ t :: before)
      (hbefore : evalEarlier before = .ok us) (ht : Applies op t vs) :
      Applies op (.over above earlier latest) vs

/-- An operator has its operands evaluated first, from left to right. -/
theorem evalTree_over_eq (op : Operator) (earlier : List Tree) (latest : Tree) :
    evalTree (.over op earlier latest)
      = evalEarlier (latest :: earlier) >>= fun vs => apply op vs.reverse := by
  rw [evalTree, evalEarlier, bind_assoc]
  congr 1
  funext before
  rw [bind_assoc]
  rfl

/-- The earliest operand with a fault decides for all of them. -/
theorem evalEarlier_eq_error {ts : List Tree} {fault : Fault} :
    evalEarlier ts = .error fault ↔ ∃ later t before us, ts = later ++ t :: before ∧
      evalEarlier before = .ok us ∧ evalTree t = .error fault := by
  -- Operands are evaluated from the last to the first, so the fault comes from the first one that
  -- fails in this order.
  induction ts with
  | nil => simp [evalEarlier]
  | cons t ts ih =>
    rw [evalEarlier, Except.bind_eq_error, ih]
    constructor
    · rintro (⟨later, t', before, us, rfl, hbefore, ht'⟩ | ⟨us, hus, h⟩)
      · exact ⟨t :: later, t', before, us, rfl, hbefore, ht'⟩
      · obtain ht | ⟨v, -, hv⟩ := Except.bind_eq_error.mp h
        · exact ⟨[], t, ts, us, rfl, hus, ht⟩
        · cases hv
    · rintro ⟨later, t', before, us, hsplit, hbefore, ht'⟩
      cases later with
      | nil =>
        obtain ⟨rfl, rfl⟩ := List.cons.inj hsplit
        exact .inr ⟨us, hbefore, Except.bind_eq_error.mpr (.inl ht')⟩
      | cons _ later =>
        obtain ⟨rfl, rfl⟩ := List.cons.inj hsplit
        exact .inl ⟨later, t', before, us, rfl, hbefore, ht'⟩

/-- A tree whose evaluation breaks off comes to the one function that can do so, on arguments on
    which it does. -/
theorem Tree.exists_applies : ∀ {t : Tree}, evalTree t = .error .crash →
    ∃ v, t.Applies (.call "str::substring") [v] ∧ CutsCharacter v
  | .bare op, h => by
    rw [evalTree] at h
    obtain ⟨-, v, hv, -⟩ := apply_eq_crash.mp h
    cases hv
  | .over op earlier latest, h => by
    rw [evalTree_over_eq] at h
    obtain h | ⟨vs, hvs, h⟩ := Except.bind_eq_error.mp h
    · -- The fault is that of an operand, which is a smaller tree.
      obtain ⟨later, t, before, us, hsplit, hbefore, hcrash⟩ := evalEarlier_eq_error.mp h
      have hsize : sizeOf t < sizeOf (Tree.over op earlier latest) := by
        have hmem : t ∈ latest :: earlier := by simp [hsplit]
        have := List.sizeOf_lt_of_mem hmem
        simp at this ⊢
        omega
      obtain ⟨v, happlies, hcuts⟩ := Tree.exists_applies hcrash
      exact ⟨v, .operand hsplit hbefore happlies, hcuts⟩
    · obtain ⟨rfl, v, hv, hcuts⟩ := apply_eq_crash.mp h
      exact ⟨v, hv ▸ .applied hvs, hcuts⟩
termination_by t => sizeOf t
decreasing_by exact hsize

/-- What an operator does on values to which the evaluation of a tree comes, the tree does as
    well. -/
theorem Tree.Applies.crash {op : Operator} {t : Tree} {vs : List Value} (happlies : t.Applies op vs)
    (h : apply op vs = .error .crash) : evalTree t = .error .crash := by
  induction happlies with
  | bare => exact h
  | applied hvs =>
    rw [evalTree_over_eq, hvs]
    exact h
  | operand hsplit hbefore _ ih =>
    rw [evalTree_over_eq, evalEarlier_eq_error.mpr ⟨_, _, _, _, hsplit, hbefore, ih h⟩]
    rfl

/-- A tree breaks off exactly where its evaluation comes to a cut inside a character. -/
theorem evalTree_eq_crash {t : Tree} : evalTree t = .error .crash
    ↔ ∃ v, t.Applies (.call "str::substring") [v] ∧ CutsCharacter v :=
  ⟨Tree.exists_applies, fun ⟨v, happlies, hcuts⟩ =>
    happlies.crash (apply_eq_crash.mpr ⟨rfl, v, rfl, hcuts⟩)⟩

/-- A text breaks off exactly where it writes a tree that comes to a cut inside a character. -/
theorem evaluate_eq_crash {cs : List Char} : evaluate cs = .error .crash
    ↔ ∃ t v, parse cs = .ok t ∧ t.Applies (.call "str::substring") [v] ∧ CutsCharacter v := by
  rw [evaluate]
  cases hparse : parse cs with
  | ok t => simp [evalTree_eq_crash]
  | error cause => simp

end Questionnaire.Expression
