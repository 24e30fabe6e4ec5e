import Questionnaire.Proofs.Number.Integer
import Questionnaire.Proofs.ValueType.Read

namespace Questionnaire.ValueType

open Number (roundedInt roundedInt_mono)
open Text (signedDecimal)

/-!
# Integer ranges

The bounds of a range are floating point numbers, and an integer widens before it is compared with
them.  All three are rounded to their first 53 digits, so an integer beyond a bound is taken for it
if these are the same.

* `interval`, `read_interval_eq` — the text of an integer range, and the type that is read from it.
* `within_widen` — an integer lies within bounds if what it is rounded to does.
* `read_interval` — which integers the type accepts.
-/

/-! ### Widening -/

/-- An integer of 64 bits is at most the 63rd power of two in magnitude. -/
theorem natAbs_toInt_le (i : Int64) : i.toInt.natAbs ≤ 2 ^ 63 := by
  have hlow := i.le_toInt
  have hhigh := i.toInt_lt
  omega

/-- Widened integers are in the order of the rounded ones. -/
theorem widen_le_widen (i j : Int64) :
    Value.widen i ≤ Value.widen j ↔ roundedInt i.toInt ≤ roundedInt j.toInt := by
  have hi := natAbs_toInt_le i
  have hj := natAbs_toInt_le j
  obtain ⟨hfinite, hvalue⟩ := Number.rational_ofInt (show i.toInt.natAbs ≤ 2 ^ 64 by omega)
  obtain ⟨hfinite', hvalue'⟩ := Number.rational_ofInt (show j.toInt.natAbs ≤ 2 ^ 64 by omega)
  rw [Value.widen, Value.widen, Number.le_iff hfinite hfinite', hvalue, hvalue']
  exact Int.cast_le

/-- An integer lies within bounds if what it is rounded to does. -/
theorem within_widen (low high i : Int64) :
    within (some (Value.widen low)) (some (Value.widen high)) (Value.widen i) = true ↔
      roundedInt low.toInt ≤ roundedInt i.toInt ∧ roundedInt i.toInt ≤ roundedInt high.toInt := by
  rw [within, Bool.and_eq_true, decide_eq_true_eq, decide_eq_true_eq, widen_le_widen,
    widen_le_widen]

/-- Rounded integers are compared as the integers are, unless they are the same. -/
theorem roundedInt_le_iff (i j : ℤ) :
    roundedInt i ≤ roundedInt j ↔ i ≤ j ∨ roundedInt i = roundedInt j := by
  refine ⟨fun hle => ?_, fun h => h.elim roundedInt_mono le_of_eq⟩
  rcases le_total i j with h | h
  · exact .inl h
  · exact .inr (le_antisymm hle (roundedInt_mono h))

/-! ### Texts -/

/-- The text of an integer range. -/
def interval (low high : Int64) : String :=
  .ofList ("Annotated[int, ValueRange(".toList ++ signedDecimal low.toInt ++ ", ".toList
    ++ signedDecimal high.toInt ++ ")]".toList)

/-- A decimal with its sign is read as the number that its integer widens to. -/
theorem readsBound_signedDecimal (i : Int64) :
    ReadsBound (signedDecimal i.toInt) (some (Value.widen i)) := by
  have hi := natAbs_toInt_le i
  exact readsBound_of_numeral (signedDecimal_ne_nil _) (Number.isNumeral_signedDecimal _)
    (Number.readFloat_signedDecimal (by omega))

/-- Both bounds are read as what their integers widen to. -/
theorem read_interval_eq (low high : Int64) :
    read (interval low high) = .ok (.ranged .int (some (Value.widen low))
      (some (Value.widen high))) := by
  have hlow := readsBound_signedDecimal low
  have hhigh := readsBound_signedDecimal high
  -- The arguments are kept as one list, so that the text is an application of them.
  obtain ⟨texts, htexts⟩ : ∃ texts, texts = ["int".toList,
      range (signedDecimal low.toInt) (signedDecimal high.toInt)] := ⟨_, rfl⟩
  have harguments : ∀ cs ∈ texts, IsArgument cs := by
    rw [htexts]
    exact List.forall_mem_cons.mpr ⟨IsWord.argument (by decide),
      List.forall_mem_singleton.mpr (isArgument_range hlow hhigh)⟩
  have htext : (interval low high).toList = applied "Annotated" (row texts) := by
    -- Three pieces of fixed text stand around the bounds.
    have hfront : "Annotated[int, ValueRange(".toList = "Annotated".toList
        ++ '[' :: ("int".toList ++ ',' :: ' ' :: (rangeName ++ ['('])) := by decide
    have hcomma : ", ".toList = [',', ' '] := by decide
    have hback : ")]".toList = [')', ']'] := by decide
    refine String.toList_ofList.trans ?_
    rw [htexts, hfront, hcomma, hback]
    simp only [applied, row, range, List.append_assoc, List.cons_append, List.nil_append]
  have hword : IsWord "Annotated".toList := by decide
  obtain ⟨below, text, hbelow, hread⟩ := readWithin_applied hword harguments le_rfl
  rw [read, htext, hread, htexts]
  exact readGeneric_annotated (by cases below <;> rfl) hlow hhigh text

/-- A range of integers accepts what lies between its bounds after widening. -/
theorem accepts_ranged_int (low high : Option Float) (i : Int64) :
    (ValueType.ranged .int low high).accepts (.int i) = within low high (Value.widen i) := rfl

/-- **Integer ranges.** An integer range accepts the integers between its bounds, and those beyond
    a bound that are rounded to the same 53 digits.  Neither such an integer nor the bound that it
    is taken for has at most 53 digits. -/
theorem read_interval (low high i : Int64) :
    ∃ t, read (interval low high) = .ok t
      ∧ (t.accepts (.int i) = true ↔
        (low ≤ i ∨ roundedInt low.toInt = roundedInt i.toInt)
          ∧ (i ≤ high ∨ roundedInt i.toInt = roundedInt high.toInt))
      ∧ (i.toInt.natAbs < 2 ^ 53 ∨ low.toInt.natAbs < 2 ^ 53 ∧ high.toInt.natAbs < 2 ^ 53 →
        (t.accepts (.int i) = true ↔ low ≤ i ∧ i ≤ high)) := by
  refine ⟨_, read_interval_eq low high, ?_, fun h => ?_⟩
  · rw [accepts_ranged_int, within_widen, roundedInt_le_iff, roundedInt_le_iff,
      Int64.le_iff_toInt_le, Int64.le_iff_toInt_le]
  · have hlow := h.symm.imp_left And.left
    have hhigh := h.imp_right And.right
    rw [accepts_ranged_int, within_widen, Number.roundedInt_le_roundedInt hlow,
      Number.roundedInt_le_roundedInt hhigh, Int64.le_iff_toInt_le, Int64.le_iff_toInt_le]

/-- Beyond bounds of 53 digits nothing is accepted, though their neighbours have 54. -/
theorem read_interval_exact :
    ∃ t, read "Annotated[int, ValueRange(-9007199254740991, 9007199254740991)]" = .ok t
      ∧ (-9007199254740991 : Int64).toInt.natAbs < 2 ^ 53
      ∧ (9007199254740991 : Int64).toInt.natAbs < 2 ^ 53
      ∧ ¬ t.accepts (.int 9007199254740992) = true := by
  have hlow : (-9007199254740991 : Int64).toInt.natAbs < 2 ^ 53 := by decide
  have hhigh : (9007199254740991 : Int64).toInt.natAbs < 2 ^ 53 := by decide
  obtain ⟨t, hread, -, hexact⟩ :=
    read_interval (-9007199254740991) 9007199254740991 9007199254740992
  refine ⟨t, hread, hlow, hhigh, fun haccepts => ?_⟩
  exact absurd ((hexact (.inr ⟨hlow, hhigh⟩)).mp haccepts).2 (by decide)

/-- The integer after the first one of 54 digits is taken for it. -/
theorem read_interval_beyond :
    ∃ t, read "Annotated[int, ValueRange(0, 9007199254740992)]" = .ok t
      ∧ t.accepts (.int 9007199254740993) = true
      ∧ ¬ (9007199254740993 : Int64) ≤ 9007199254740992 :=
  ⟨_, read_interval_eq 0 9007199254740992, by rfl, by decide⟩

end Questionnaire.ValueType
