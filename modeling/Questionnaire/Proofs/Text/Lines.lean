import Mathlib.Data.List.Basic
import Questionnaire.Proofs.Text
import Questionnaire.Text.Lines

namespace Questionnaire.Text

/-!
# Lines of texts and of bytes

A text can be cut into lines before it is encoded or after that.

* `toList_toUTF8` — the bytes of a text are those of its characters.
* `pieces_flatMap` — encoding commutes with cutting, if ends are encoded as ends and nothing else is.
* `byteLines_toUTF8`, `ofByteLine_encoded` — the lines of the bytes of a text are those of the text.
* `trim_withoutEnd`, `trim_withoutBreaks` — the end of a line is blank, however much of it is
  dropped.
-/

/-! ### Bytes of a text -/

/-- The loop that lists bytes goes through them from an index on. -/
theorem toList_loop (bytes : ByteArray) (i : Nat) (back : List UInt8) :
    ByteArray.toList.loop bytes i back = back.reverse ++ bytes.data.toList.drop i := by
  fun_induction ByteArray.toList.loop bytes i back with
  | case1 i back h ih =>
    have hget : bytes.data.toList.drop i = bytes.get! i :: bytes.data.toList.drop (i + 1) := by
      have hi : i < bytes.data.size := h
      have hitem : bytes.get! i = bytes.data[i] := getElem!_pos bytes.data i hi
      rw [List.drop_eq_getElem_cons (by simpa using hi), hitem, Array.getElem_toList]
    rw [ih, hget, List.reverse_cons, List.append_assoc, List.singleton_append]
  | case2 i back h =>
    have hnone : bytes.data.toList.drop i = [] :=
      List.drop_of_length_le (by simpa using h)
    rw [hnone, List.append_nil]

/-- Bytes that are packed are listed as they were. -/
theorem toList_toByteArray (bytes : List UInt8) : bytes.toByteArray.toList = bytes := by
  rw [ByteArray.toList, toList_loop]
  simp

/-- The bytes of a text are those of its characters, one after another. -/
theorem toList_toUTF8 (text : String) :
    text.toUTF8.toList = text.toList.flatMap String.utf8EncodeChar := by
  obtain ⟨cs, rfl⟩ : ∃ cs, text = String.ofList cs := ⟨text.toList, String.ofList_toList.symm⟩
  rw [String.toList_ofList]
  exact toList_toByteArray _

/-- A line feed is one byte, which is no part of any other character. -/
theorem utf8EncodeChar_break (c : Char) (b : UInt8) (hb : b ∈ String.utf8EncodeChar c) :
    b = 10 ↔ c = '\n' := by
  have hb10 : b = 10 ↔ b.toNat = 10 := by
    rw [← UInt8.toNat_inj]
    rfl
  have hc10 : c = '\n' ↔ c.val.toNat = 10 := by
    rw [Char.ext_iff, ← UInt32.toNat_inj]
    rfl
  rw [hb10, hc10]
  unfold String.utf8EncodeChar at hb
  dsimp only at hb
  split at hb
  · obtain rfl := List.mem_singleton.mp hb
    rw [UInt8.toNat_ofNat']
    omega
  · -- The bytes of all other characters are at least 128.
    have hhigh : 128 ≤ b.toNat := by
      split at hb
      · simp only [List.mem_cons, List.not_mem_nil, or_false] at hb
        rcases hb with rfl | rfl <;> rw [UInt8.toNat_ofNat'] <;> omega
      · split at hb
        · simp only [List.mem_cons, List.not_mem_nil, or_false] at hb
          rcases hb with rfl | rfl | rfl <;> rw [UInt8.toNat_ofNat'] <;> omega
        · simp only [List.mem_cons, List.not_mem_nil, or_false] at hb
          rcases hb with rfl | rfl | rfl | rfl <;> rw [UInt8.toNat_ofNat'] <;> omega
    omega

/-! ### Cutting -/

section Pieces

variable {α β : Type} {isEnd : α → Bool} {isEnd' : β → Bool}

/-- Pieces of which the first one starts with some more items. -/
def withFront (front : List α) : List (List α) → List (List α)
  | [] => [front]
  | piece :: more => (front ++ piece) :: more

/-- An element that does not end a piece belongs to the first one. -/
theorem pieces_cons {a : α} (h : isEnd a = false) (rest : List α) :
    pieces isEnd (a :: rest) = withFront [a] (pieces isEnd rest) := by
  rw [pieces, h]
  cases pieces isEnd rest <;> rfl

/-- Elements that do not end a piece belong to the first one. -/
theorem pieces_append {front : List α} (hne : front ≠ []) (h : ∀ a ∈ front, isEnd a = false)
    (rest : List α) : pieces isEnd (front ++ rest) = withFront front (pieces isEnd rest) := by
  induction front with
  | nil => exact absurd rfl hne
  | cons a front ih =>
    rw [List.cons_append, pieces_cons (h a List.mem_cons_self)]
    cases front with
    | nil => rfl
    | cons b front =>
      rw [ih (by simp) fun c hc => h c (List.mem_cons_of_mem a hc)]
      cases pieces isEnd rest <;> rfl

/-- Encoding commutes with cutting, if an end is encoded as one item that is an end, and all else as
    items that are none. -/
theorem pieces_flatMap {encode : α → List β}
    (hend : ∀ a, isEnd a = true → ∃ b, encode a = [b] ∧ isEnd' b = true)
    (hother : ∀ a, isEnd a = false → encode a ≠ [] ∧ ∀ b ∈ encode a, isEnd' b = false)
    (items : List α) :
    pieces isEnd' (items.flatMap encode) = (pieces isEnd items).map (·.flatMap encode) := by
  induction items with
  | nil => rfl
  | cons a items ih =>
    rw [List.flatMap_cons]
    cases ha : isEnd a with
    | true =>
      obtain ⟨b, hb, hisEnd⟩ := hend a ha
      rw [hb, List.singleton_append, pieces, if_pos hisEnd, pieces, if_pos ha, ih]
      simp [hb]
    | false =>
      obtain ⟨hne, hnone⟩ := hother a ha
      rw [pieces_append hne hnone, pieces_cons ha, ih]
      cases pieces isEnd items <;> simp [withFront]

end Pieces

/-- The lines of the bytes of a text are those of the text. -/
theorem byteLines_toUTF8 (text : String) :
    byteLines text.toUTF8
      = (pieces (· == '\n') text.toList).map (·.flatMap String.utf8EncodeChar) := by
  rw [byteLines, toList_toUTF8]
  apply pieces_flatMap
  · intro c hc
    obtain rfl := beq_iff_eq.mp hc
    exact ⟨10, rfl, rfl⟩
  · intro c hc
    refine ⟨String.utf8EncodeChar_ne_nil, fun b hb => ?_⟩
    rw [beq_eq_false_iff_ne] at hc ⊢
    exact fun h => hc ((utf8EncodeChar_break c b hb).mp h)

/-- The bytes of a line are read as that line without the breaks at its end. -/
theorem ofByteLine_encoded (line : List Char) :
    ofByteLine? (line.flatMap String.utf8EncodeChar)
      = some (String.ofList (withoutBreaks line)) := by
  have hbytes : (⟨(line.flatMap String.utf8EncodeChar).toArray⟩ : ByteArray)
      = (String.ofList line).toUTF8 := by
    apply ByteArray.ext
    exact List.data_toByteArray.symm
  rw [ofByteLine?, hbytes, ofUtf8_toUTF8, Option.map_some, String.toList_ofList]

/-! ### Ends of lines -/

/-- Blanks behind a text do not matter. -/
theorem trim_append_gap {gap : List Char} (h : IsGap gap) (cs : List Char) :
    trim (cs ++ gap) = trim cs := by
  have hend (front : List Char) : trimEnd (front ++ gap) = trimEnd front := by
    have hgap : IsGap gap.reverse := fun c hc => h c (List.mem_reverse.mp hc)
    rw [trimEnd, List.reverse_append, dropWhile_isBlank_gap hgap, trimEnd]
  -- The induction is on the characters, until the first one that is no blank.
  induction cs with
  | nil =>
    have hdrop : trimStart gap = [] := by
      simpa [trimStart] using dropWhile_isBlank_gap h []
    rw [List.nil_append, trim, hdrop]
    rfl
  | cons c cs ih =>
    cases hc : isBlank c with
    | true =>
      have hdrop (front : List Char) : trim (c :: front) = trim front := by
        rw [trim, trimStart, List.dropWhile_cons_of_pos hc, trim, trimStart]
      rw [List.cons_append, hdrop, hdrop, ih]
    | false =>
      rw [List.cons_append, trim, trimStart_of_startsFull (startsFull_cons hc _),
        ← List.cons_append, hend, trim, trimStart_of_startsFull (startsFull_cons hc _)]

/-- The characters that end lines are blanks. -/
theorem isGap_of_breaks {cs : List Char} (h : ∀ c ∈ cs, c = '\n' ∨ c = '\r') : IsGap cs := by
  intro c hc
  rcases h c hc with rfl | rfl <;> rfl

/-- The end of a line is blank, so it does not matter after trimming. -/
theorem trim_withoutEnd (line : List Char) : trim (withoutEnd line) = trim line := by
  unfold withoutEnd
  split
  · rename_i back heq
    have hline : line = back.reverse ++ ['\r', '\n'] := by
      simpa using congrArg List.reverse heq
    rw [hline]
    exact (trim_append_gap (isGap_of_breaks (by simp)) _).symm
  · rename_i back _ heq
    have hline : line = back.reverse ++ ['\n'] := by
      simpa using congrArg List.reverse heq
    rw [hline]
    exact (trim_append_gap (isGap_of_breaks (by simp)) _).symm
  · rfl

/-- Breaks at the end of a line do not matter after trimming. -/
theorem trim_withoutBreaks (line : List Char) : trim (withoutBreaks line) = trim line := by
  have hline : withoutBreaks line ++ (line.reverse.takeWhile fun c => c == '\n' || c == '\r').reverse
      = line := by
    rw [withoutBreaks, ← List.reverse_append, List.takeWhile_append_dropWhile, List.reverse_reverse]
  have hgap : IsGap (line.reverse.takeWhile fun c => c == '\n' || c == '\r').reverse := by
    apply isGap_of_breaks
    intro c hc
    have hbreak := List.all_eq_true.mp List.all_takeWhile c (List.mem_reverse.mp hc)
    simpa using hbreak
  rw [← trim_append_gap hgap (withoutBreaks line), hline]

end Questionnaire.Text
