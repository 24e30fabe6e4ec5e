import Mathlib.Data.List.Basic
import Mathlib.Data.List.Induction
import Mathlib.Data.List.Nodup
import Questionnaire.Keyed

namespace Questionnaire.Keyed

/-!
# Keyed lists

* `lookup_eq_some_iff_mem`, `lookup_eq_of_perm` — with one pair for each key, all pairs are found,
  in whatever order they stand.
* `put_of_not_mem` — a new key goes to the end.
* `lookup_put` — what is written is read, and nothing else changes.
* `putAll_nil` — a list with one pair for each key stays as it is.
* `lookup_putAll`, `keys_putAll` — the last pair for a key counts, in the place of the first.
-/

variable {α : Type}

/-! ### Reading -/

section AnyKeys

variable {κ : Type} [BEq κ] [LawfulBEq κ] {key : κ} {value : α} {pairs others : List (κ × α)}

/-- There is something under a key exactly if the key occurs. -/
theorem isSome_lookup_iff_mem : (pairs.lookup key).isSome = true ↔ key ∈ pairs.map Prod.fst := by
  rw [List.lookup_isSome_iff, List.mem_map]
  constructor
  · rintro ⟨pair, hpair, hkey⟩
    exact ⟨pair, hpair, (beq_iff_eq.mp hkey).symm⟩
  · rintro ⟨pair, hpair, rfl⟩
    exact ⟨pair, hpair, by simp⟩

/-- With one pair for each key, every pair is found. -/
theorem lookup_eq_some_iff_mem (h : (pairs.map Prod.fst).Nodup) :
    pairs.lookup key = some value ↔ (key, value) ∈ pairs := by
  rw [List.lookup_eq_some_iff]
  constructor
  · rintro ⟨front, back, rfl, -⟩
    simp
  · intro hmem
    obtain ⟨front, back, rfl⟩ := List.append_of_mem hmem
    refine ⟨front, back, rfl, fun other hother => ?_⟩
    rw [List.map_append, List.nodup_append] at h
    have hne := h.2.2 other.1 (List.mem_map_of_mem hother) key (by simp)
    simpa using hne.symm

/-- The order of the pairs makes no difference. -/
theorem lookup_eq_of_perm (h : pairs.Perm others) (hdistinct : (pairs.map Prod.fst).Nodup)
    (key : κ) : pairs.lookup key = others.lookup key := by
  apply Option.ext
  intro value
  rw [lookup_eq_some_iff_mem hdistinct, lookup_eq_some_iff_mem ((h.map _).nodup hdistinct),
    h.mem_iff]

end AnyKeys

/-- There is something under a key exactly if it is one of the keys. -/
theorem isSome_lookup_iff {key : String} {pairs : List (String × α)} :
    (pairs.lookup key).isSome = true ↔ key ∈ keys pairs := isSome_lookup_iff_mem

/-- Under a key that does not occur there is nothing. -/
theorem lookup_eq_none_of_not_mem {key : String} {pairs : List (String × α)}
    (h : key ∉ keys pairs) : pairs.lookup key = none := by
  rw [← isSome_lookup_iff] at h
  exact Option.not_isSome_iff_eq_none.mp h

/-- What is under a key occurs with it. -/
theorem mem_of_lookup {key : String} {value : α} {pairs : List (String × α)}
    (h : pairs.lookup key = some value) : (key, value) ∈ pairs := by
  obtain ⟨front, back, rfl, -⟩ := List.lookup_eq_some_iff.mp h
  simp

/-- If no key occurs twice, whatever occurs with a key is under it. -/
theorem lookup_of_mem {key : String} {value : α} {pairs : List (String × α)}
    (hnodup : (keys pairs).Nodup) (h : (key, value) ∈ pairs) : pairs.lookup key = some value :=
  (lookup_eq_some_iff_mem hnodup).mpr h

/-- Of several pairs for a key, the last one is found first from behind. -/
theorem lookup_reverse_of_last {key : String} {value : α} {front back : List (String × α)}
    (h : key ∉ keys back) : (front ++ (key, value) :: back).reverse.lookup key = some value := by
  have hback : key ∉ keys back.reverse := by
    simpa [keys] using h
  rw [List.reverse_append, List.reverse_cons, List.append_assoc, List.lookup_append,
    lookup_eq_none_of_not_mem hback]
  simp

/-! ### Writing -/

/-- Putting a value under a new key adds the key at the end. -/
theorem keys_put (key : String) (value : α) (pairs : List (String × α)) :
    keys (put key value pairs) = if key ∈ keys pairs then keys pairs else keys pairs ++ [key] := by
  induction pairs with
  | nil => rfl
  | cons pair pairs ih =>
    obtain ⟨k, v⟩ := pair
    rw [put]
    by_cases hk : k = key
    · simp [hk, keys]
    · have hne : key ≠ k := Ne.symm hk
      rw [if_neg (by simpa using hk)]
      -- the pair in front stays, so its key does
      show k :: keys (put key value pairs) = _
      rw [ih]
      by_cases hmem : key ∈ keys pairs <;> simp_all [keys]

/-- Under a new key, a value is put at the end. -/
theorem put_of_not_mem {key : String} (value : α) {pairs : List (String × α)}
    (h : key ∉ keys pairs) : put key value pairs = pairs ++ [(key, value)] := by
  induction pairs with
  | nil => rfl
  | cons pair pairs ih =>
    obtain ⟨k, v⟩ := pair
    obtain ⟨hk, hrest⟩ : key ≠ k ∧ key ∉ keys pairs := by simpa [keys] using h
    rw [put, if_neg (by simpa using Ne.symm hk), ih hrest, List.cons_append]

/-- An old key keeps its place. -/
theorem put_append {key : String} {front : List (String × α)} (h : key ∉ keys front)
    (value old : α) (back : List (String × α)) :
    put key value (front ++ (key, old) :: back) = front ++ (key, value) :: back := by
  induction front with
  | nil => simp [put]
  | cons pair front ih =>
    obtain ⟨k, v⟩ := pair
    obtain ⟨hk, hfront⟩ : key ≠ k ∧ key ∉ keys front := by simpa [keys] using h
    rw [List.cons_append, put, if_neg (by simpa using Ne.symm hk), ih hfront, List.cons_append]

/-- What is written is read, and nothing else changes. -/
theorem lookup_put (key other : String) (value : α) (pairs : List (String × α)) :
    (put key value pairs).lookup other
      = if other = key then some value else pairs.lookup other := by
  induction pairs with
  | nil =>
    by_cases h : other = key <;> simp [put, h]
  | cons pair pairs ih =>
    obtain ⟨k, v⟩ := pair
    rw [put]
    -- Either the pair is replaced here and the rest is as it was, or it is kept and passed.
    by_cases hk : k = key
    · subst hk
      by_cases h : other = k
      · simp [h]
      · simp [List.lookup_cons, show (other == k) = false by simpa using h, h]
    · rw [if_neg (by simpa using hk), List.lookup_cons, List.lookup_cons, ih]
      by_cases h : other = k
      · have hne : k ≠ key := hk
        simp [h, hne]
      · simp [show (other == k) = false by simpa using h]

/-- Putting a value brings no key in twice. -/
theorem nodup_put {key : String} (value : α) {pairs : List (String × α)}
    (h : (keys pairs).Nodup) : (keys (put key value pairs)).Nodup := by
  rw [keys_put]
  split
  · exact h
  · rename_i hkey
    refine List.nodup_append.mpr ⟨h, List.nodup_singleton key, ?_⟩
    intro k hk other hother
    obtain rfl := List.mem_singleton.mp hother
    exact ne_of_mem_of_not_mem hk hkey

/-- Several values are put one after the other. -/
theorem putAll_cons (key : String) (value : α) (pairs onto : List (String × α)) :
    putAll ((key, value) :: pairs) onto = putAll pairs (put key value onto) := rfl

/-- Putting them brings no key in twice either. -/
theorem nodup_putAll (pairs : List (String × α)) {onto : List (String × α)}
    (h : (keys onto).Nodup) : (keys (putAll pairs onto)).Nodup := by
  induction pairs generalizing onto with
  | nil => exact h
  | cons pair pairs ih => exact ih (nodup_put pair.2 h)

/-- Pairs with new keys, one for each, go to the end. -/
theorem putAll_of_nodup {pairs onto : List (String × α)} (h : (keys (onto ++ pairs)).Nodup) :
    putAll pairs onto = onto ++ pairs := by
  induction pairs generalizing onto with
  | nil => simp [putAll]
  | cons pair pairs ih =>
    obtain ⟨k, v⟩ := pair
    have hnew : k ∉ keys onto := by
      simp only [keys, List.map_append, List.map_cons, List.nodup_append] at h
      exact fun hk => h.2.2 k hk k (by simp) rfl
    rw [putAll_cons, put_of_not_mem v hnew, ih (by simpa using h)]
    simp

/-- Pairs with distinct keys stay as they are when they are put into nothing. -/
theorem putAll_nil {pairs : List (String × α)} (h : (keys pairs).Nodup) :
    putAll pairs [] = pairs := putAll_of_nodup h

/-- Later pairs count. -/
theorem lookup_putAll (key : String) (pairs onto : List (String × α)) :
    (putAll pairs onto).lookup key = (pairs.reverse.lookup key).or (onto.lookup key) := by
  induction pairs generalizing onto with
  | nil => simp [putAll]
  | cons pair pairs ih =>
    obtain ⟨k, v⟩ := pair
    -- The first pair is written first, so it is the last one of the reversed list to be looked at.
    rw [putAll_cons, ih, lookup_put, List.reverse_cons, List.lookup_append, Option.or_assoc]
    by_cases hk : key = k
    · simp [hk]
    · simp [hk, List.lookup_cons, show (key == k) = false by simpa using hk]

/-- The keys that have been put into nothing are those of the pairs, each once. -/
theorem keys_putAll (pairs : List (String × α)) :
    keys (putAll pairs []) = (keys pairs).eraseDups := by
  induction pairs using List.reverseRecOn with
  | nil => rfl
  | append_singleton pairs pair ih =>
    obtain ⟨k, v⟩ := pair
    have hlast : putAll (pairs ++ [(k, v)]) [] = put k v (putAll pairs []) := by
      simp [putAll]
    have hkeys : keys (pairs ++ [(k, v)]) = keys pairs ++ [k] := by simp [keys]
    rw [hlast, keys_put, ih, hkeys, List.eraseDups_append]
    by_cases hk : k ∈ keys pairs <;> simp [hk, List.removeAll, List.eraseDups_cons]

/-! ### Taking pairs out -/

/-- Dropping one key leaves what is under the others. -/
theorem lookup_filter_ne {key other : String} (h : other ≠ key) (pairs : List (String × α)) :
    (pairs.filter (·.1 ≠ key)).lookup other = pairs.lookup other := by
  induction pairs with
  | nil => rfl
  | cons pair pairs ih =>
    obtain ⟨k, v⟩ := pair
    by_cases hk : k = key
    · subst hk
      rw [List.filter_cons_of_neg (by simp), ih, List.lookup_cons,
        show (other == k) = false by simpa using h]
    · rw [List.filter_cons_of_pos (by simpa using hk), List.lookup_cons, List.lookup_cons, ih]

end Questionnaire.Keyed
