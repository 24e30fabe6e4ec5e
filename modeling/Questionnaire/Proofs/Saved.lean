import Questionnaire.Proofs.Toml.Read
import Questionnaire.Saved

namespace Questionnaire.Saved

/-!
# Saved configurations

* `read_document` — what is written for a function is read for that function.
* `read_document_merged` — several answers for one parameter are read as one.
-/

open Questionnaire.Toml (entryText linesText stringEntry)

/-- The entries of a document. -/
def entries (function : String) (pairs : List (String × String)) : Toml.Entries :=
  [("function", .string function), ("values", .table .header (pairs.map stringEntry))]

/-- A document is an entry for the function, and then a table of its values. -/
theorem document_toList (function : String) (s : Saved) :
    (document function s).toList = entryText "function" function
      ++ '\n' :: '\n' :: '[' :: ("values]\n".toList ++ linesText (Keyed.putAll s.values [])) := by
  have hline (key value : String) : line key value = entryText key value ++ ['\n'] := by
    simp [line, entryText]
  simp [document, hline, linesText]

/-- Every entry takes a line, so there are no more of them than characters. -/
theorem length_le_linesText (pairs : List (String × String)) :
    pairs.length ≤ (linesText pairs).length := by
  induction pairs with
  | nil => simp
  | cons pair pairs ih =>
    simp only [linesText, List.flatMap_cons, List.length_append, List.length_cons] at ih ⊢
    omega

/-- A document is read as its entries. -/
theorem read_entries (function : String) {pairs : List (String × String)}
    (hnodup : (Keyed.keys pairs).Nodup) :
    Toml.read? (document function ⟨pairs⟩) = some (entries function pairs) := by
  have hpairs : Keyed.putAll pairs [] = pairs := Keyed.putAll_nil hnodup
  have htext := document_toList function ⟨pairs⟩
  rw [hpairs] at htext
  have hfirst : (Toml.Draft.mk [] []).define [] "function" (.string function)
      = some ⟨[("function", .string function)], []⟩ := rfl
  have hkeys : (Keyed.keys ([] ++ pairs.map stringEntry)).Nodup := by
    simpa [Keyed.keys, stringEntry, Function.comp_def] using hnodup
  -- The header opens a new table only because the one key above it has another name.
  have hvalues : "values" ∉ Keyed.keys [("function", Toml.string function)] := by
    simp [Keyed.keys]
  have hreturn : '\r' ∉ (document function ⟨pairs⟩).toList := by
    rw [htext]
    simp [Toml.return_not_mem_entryText, Toml.return_not_mem_linesText]
  -- The fuel of the reader is the length of the document, and each line has a character.
  have hlength : pairs.length + 3 ≤ (document function ⟨pairs⟩).toList.length := by
    have hlines := length_le_linesText pairs
    rw [htext]
    simp
    omega
  have hstatements (fuel : Nat) (hfuel : pairs.length < fuel) :
      Toml.readStatements (fuel + 2) ⟨[], []⟩ (document function ⟨pairs⟩).toList
        = some ⟨entries function pairs, ["values"]⟩ := by
    rw [htext, Toml.readStatements_entryText hfirst rfl,
      Toml.readStatements_values hvalues (Toml.skipVoid_linesText pairs),
      Toml.readStatements_linesText hvalues hkeys hfuel]
    rfl
  unfold Toml.read?
  split
  · rename_i rest heq
    rw [htext] at heq
    cases heq
  · dsimp only
    rw [Toml.hasWholeBreaks_of_not_mem hreturn]
    obtain ⟨fuel, hfuel⟩ : ∃ fuel, (document function ⟨pairs⟩).toList.length + 1 = fuel + 2 :=
      ⟨(document function ⟨pairs⟩).toList.length - 1, by omega⟩
    rw [hfuel, hstatements fuel (by omega)]
    rfl

/-- Entries that are strings are read as answers. -/
theorem answers_stringEntry (pairs : List (String × String)) :
    answers (pairs.map stringEntry) = .ok pairs := by
  induction pairs with
  | nil => rfl
  | cons pair pairs ih =>
    rw [List.map_cons, stringEntry, answers, ih]
    rfl

/-- Entries that are strings are narrow: no number among them is too large. -/
theorem entriesNarrow_stringEntry (pairs : List (String × String)) :
    Toml.entriesNarrow (pairs.map stringEntry) = true := by
  induction pairs with
  | nil => rfl
  | cons pair pairs ih =>
    rw [List.map_cons, stringEntry, Toml.entriesNarrow, ih]
    rfl

/-- **Saving and reading.** A document that has been written for a function, with one answer for
    each parameter, is read for it with the same answers in the same order. -/
theorem read_document (function : String) {pairs : List (String × String)}
    (hnodup : (Keyed.keys pairs).Nodup) :
    read function (document function ⟨pairs⟩) = .ok ⟨pairs⟩ := by
  have hparts : parts? (entries function pairs) = some (function, pairs.map stringEntry) := by
    have hfunction : (entries function pairs).lookup "function" = some (.string function) := rfl
    have hvalues : (entries function pairs).lookup "values"
        = some (.table .header (pairs.map stringEntry)) := rfl
    simp [parts?, hfunction, hvalues, Toml.hasNarrowIntegers, entriesNarrow_stringEntry,
      Toml.entries?]
  rw [read, read_entries function hnodup, Option.bind_some, hparts]
  simp [answers_stringEntry]

/-! ### Several answers for one parameter -/

/-- One answer for each parameter: the last one, in the place of the first. -/
structure IsMerged (s merged : Saved) : Prop where
  keys : Keyed.keys merged.values = (Keyed.keys s.values).eraseDups
  answers : ∀ name, merged.get? name = s.values.reverse.lookup name

/-- A document is always read, with pairs of one name merged. -/
theorem read_document_merged (function : String) (s : Saved) :
    ∃ merged, read function (document function s) = .ok merged ∧ s.IsMerged merged := by
  have hnodup : (Keyed.keys (Keyed.putAll s.values [])).Nodup :=
    Keyed.nodup_putAll s.values List.nodup_nil
  -- the document has one line for each parameter anyway
  have hdocument : document function s = document function ⟨Keyed.putAll s.values []⟩ := by
    rw [document, document, Keyed.putAll_nil hnodup]
  refine ⟨⟨Keyed.putAll s.values []⟩, ?_, Keyed.keys_putAll s.values, fun name => ?_⟩
  · rw [hdocument, read_document function hnodup]
  · rw [get?, Keyed.lookup_putAll]
    exact Option.or_none

end Questionnaire.Saved
