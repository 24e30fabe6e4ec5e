import Mathlib.Data.Nat.Find
import Mathlib.Logic.Function.Iterate
import Mathlib.Order.Bounds.Basic
import Questionnaire.Lindenmayer.Grammar
import Questionnaire.Proofs.Except
import Questionnaire.Proofs.Text

namespace Questionnaire.Lindenmayer.Grammar

/-!
# Grammars and their words

* `read_wellFormed` — a grammar that two texts describe knows all of its symbols, and no letter
  vanishes.
* `deriveWithin_eq` — a round stops early just where the whole new word is too long.
* `byteSize_word_mono` — words do not get shorter.
* `knows_word` — every symbol of every word is known.
* `expand_eq` — expanding gives the word after so many rounds, or names the first one that is too
  long.
-/

variable {s : Grammar} {limit : Nat}

/-! ### Reading -/

/-- Only letters have rules, each becomes something, and every symbol is known. -/
structure WellFormed (s : Grammar) : Prop where
  letters : ∀ c new, s.rules.lookup c = some new → isLetter c = true
  nonempty : ∀ c new, s.rules.lookup c = some new → new ≠ []
  start : ∀ c ∈ s.start, s.knows c = true
  replacements : ∀ c new, s.rules.lookup c = some new → ∀ d ∈ new, s.knows d = true

/-- A rule has a letter, and a replacement that is not empty. -/
theorem readRule_ok {text new : List Char} {c : Char} (h : readRule text = .ok (c, new)) :
    isLetter c = true ∧ new ≠ [] := by
  unfold readRule at h
  split at h
  · cases h
  · rename_i left right _
    split at h
    · rename_i letter _
      split at h
      · cases h
      · rename_i hletter
        dsimp only at h
        split at h
        · cases h
        · rename_i hfull
          obtain ⟨rfl, rfl⟩ := Prod.mk.inj (Except.ok.inj h)
          exact ⟨by simpa using hletter, by simpa using hfull⟩
    · cases h

/-- What holds of the rules that are known, and of each rule that is read, holds of all. -/
theorem readRules_ok {known rules : List (Char × List Char)} {texts : List (List Char)}
    (h : readRules known texts = .ok rules)
    (hknown : ∀ rule ∈ known, isLetter rule.1 = true ∧ rule.2 ≠ []) :
    ∀ rule ∈ rules, isLetter rule.1 = true ∧ rule.2 ≠ [] := by
  -- The induction is on the texts, with the rules read before left open.
  induction texts generalizing known with
  | nil =>
    obtain rfl := Except.ok.inj h
    exact hknown
  | cons text texts ih =>
    rw [readRules] at h
    split at h
    · cases h
    · rename_i letter new hrule
      split at h
      · cases h
      · apply ih h
        intro rule hmem
        rcases List.mem_append.mp hmem with hmem | hmem
        · exact hknown rule hmem
        · obtain rfl := List.mem_singleton.mp hmem
          exact readRule_ok hrule

/-- Where no symbol is unknown, all are known. -/
theorem knows_of_unknown {word : List Char} (h : s.unknown? word = none) :
    ∀ c ∈ word, s.knows c = true := by
  simpa [unknown?] using h

/-- A replacement that is found for a letter stands in a rule. -/
theorem mem_of_lookup {c : Char} {new : List Char} (h : s.rules.lookup c = some new) :
    (c, new) ∈ s.rules := by
  obtain ⟨front, back, heq, -⟩ := List.lookup_eq_some_iff.mp h
  simp [heq]

/-- A grammar that passes the check is returned as it is, and knows all of its symbols. -/
theorem check_ok {t : Grammar} (h : s.check = .ok t) :
    s = t ∧ (∀ c ∈ s.start, s.knows c = true)
      ∧ ∀ rule ∈ s.rules, ∀ d ∈ rule.2, s.knows d = true := by
  -- The start is checked before the rules, and a rule before those that come after it.
  unfold check at h
  split at h
  · cases h
  · rename_i hstart
    dsimp only at h
    split at h
    · cases h
    · rename_i hrules
      refine ⟨Except.ok.inj h, knows_of_unknown hstart, fun rule hmem => ?_⟩
      have hrule := List.findSome?_eq_none_iff.mp hrules rule hmem
      exact knows_of_unknown (by simpa using hrule)

/-- **Reading.** A grammar that two texts describe is well formed. -/
theorem read_wellFormed {start rules : String} (h : read start rules = .ok s) : s.WellFormed := by
  unfold read at h
  dsimp only at h
  split at h
  · cases h
  · obtain ⟨known, hknown, hcheck⟩ := Except.bind_eq_ok.mp h
    obtain ⟨rfl, hstart, hnew⟩ := check_ok hcheck
    have hrules := readRules_ok hknown (by simp)
    exact ⟨fun c new hc => (hrules _ (mem_of_lookup hc)).1,
      fun c new hc => (hrules _ (mem_of_lookup hc)).2, hstart,
      fun c new hc => hnew _ (mem_of_lookup hc)⟩

/-! ### Derivation -/

/-- All symbols of a word replaced at once. -/
def derive (s : Grammar) (word : List Char) : List Char := word.flatMap s.replacement

/-- The start word after some rounds of derivation. -/
def word (s : Grammar) (rounds : Nat) : List Char := s.derive^[rounds] s.start

/-- The size of two words in a row is that of both. -/
theorem byteSize_append (word more : List Char) :
    byteSize (word ++ more) = byteSize word + byteSize more := by
  induction word with
  | nil => rw [List.nil_append, byteSize, Nat.zero_add]
  | cons c word ih => rw [List.cons_append, byteSize, byteSize, ih, Nat.add_assoc]

/-- Every symbol takes at least one byte. -/
theorem length_le_byteSize (word : List Char) : word.length ≤ byteSize word := by
  induction word with
  | nil => exact Nat.le_refl _
  | cons c word ih =>
    have hpos := c.utf8Size_pos
    rw [List.length_cons, byteSize]
    omega

/-- The bytes of a word are those of the text that it is. -/
theorem utf8ByteSize_ofList (word : List Char) :
    (String.ofList word).utf8ByteSize = byteSize word := by
  induction word with
  | nil => rfl
  | cons c word ih =>
    rw [String.ofList_cons, String.utf8ByteSize_append, ih]
    simp [byteSize]

/-- What is there only grows, so a round stops early just where the new word gets too long. -/
theorem deriveRest_eq (s : Grammar) {size : Nat} (hsize : size ≤ limit) (back rest : List Char) :
    s.deriveRest limit size back rest
      = if limit < size + byteSize (s.derive rest) then none
        else some (back.reverse ++ s.derive rest) := by
  induction rest generalizing size back with
  | nil =>
    rw [if_neg (by simpa [derive, byteSize] using hsize)]
    simp [deriveRest, derive]
  | cons c rest ih =>
    have hderive : s.derive (c :: rest) = s.replacement c ++ s.derive rest := rfl
    rw [deriveRest, hderive, byteSize_append, ← Nat.add_assoc]
    split
    · -- the new word can only get longer than what is too long already
      rw [if_pos (by omega)]
    · rw [ih (by omega), List.reverse_append, List.reverse_reverse, List.append_assoc]

/-- **One round.** A round gives the whole new word, unless that is too long. -/
theorem deriveWithin_eq (s : Grammar) (limit : Nat) (word : List Char) :
    s.deriveWithin limit word
      = if limit < byteSize (s.derive word) then none else some (s.derive word) := by
  rw [deriveWithin, deriveRest_eq s (Nat.zero_le limit), Nat.zero_add]
  rfl

/-! ### Words of a grammar -/

/-- Each round derives from the word of the round before. -/
theorem word_succ (s : Grammar) (rounds : Nat) :
    s.word (rounds + 1) = s.derive (s.word rounds) := by
  rw [word, Function.iterate_succ_apply']
  rfl

/-- A letter that has a rule takes one byte, and becomes at least one symbol. -/
theorem WellFormed.utf8Size_le (h : s.WellFormed) (c : Char) :
    c.utf8Size ≤ byteSize (s.replacement c) := by
  -- A letter is one byte, and its replacement is not empty; any other symbol replaces itself.
  unfold replacement
  cases hrule : s.rules.lookup c with
  | none => simp [byteSize]
  | some new =>
    have hone : c.utf8Size = 1 := by
      have hletter : c ≤ 'Z' := by
        have hrange := h.letters c new hrule
        simp only [isLetter, Bool.and_eq_true, decide_eq_true_eq] at hrange
        exact hrange.2
      rw [Char.utf8Size_eq_one_iff]
      have hz : c.val ≤ ('Z').val := hletter
      exact UInt32.le_trans hz (by decide)
    cases new with
    | nil => exact absurd rfl (h.nonempty c [] hrule)
    | cons d new =>
      have hpos := d.utf8Size_pos
      simp only [Option.getD_some, byteSize]
      omega

/-- Rules make a word longer, if anything, since no replacement is empty. -/
theorem WellFormed.byteSize_derive (h : s.WellFormed) (word : List Char) :
    byteSize word ≤ byteSize (s.derive word) := by
  induction word with
  | nil => exact Nat.le_refl _
  | cons c word ih =>
    have hderive : s.derive (c :: word) = s.replacement c ++ s.derive word := rfl
    have hfirst := h.utf8Size_le c
    have hsize : byteSize (c :: word) = c.utf8Size + byteSize word := by simp [byteSize]
    rw [hderive, byteSize_append, hsize]
    omega

/-- Words do not get shorter. -/
theorem WellFormed.byteSize_word_mono (h : s.WellFormed) :
    Monotone fun rounds => byteSize (s.word rounds) := by
  apply monotone_nat_of_le_succ
  intro rounds
  rw [word_succ]
  exact h.byteSize_derive _

/-- Every symbol of every word is known. -/
theorem WellFormed.knows_word (h : s.WellFormed) (rounds : Nat) :
    ∀ c ∈ s.word rounds, s.knows c = true := by
  induction rounds with
  | zero => exact h.start
  | succ rounds ih =>
    intro d hd
    rw [word_succ, derive] at hd
    obtain ⟨c, hc, hd⟩ := List.mem_flatMap.mp hd
    unfold replacement at hd
    cases hrule : s.rules.lookup c with
    | none =>
      -- without a rule, the symbol stays as it is
      rw [hrule] at hd
      obtain rfl := List.mem_singleton.mp hd
      exact ih d hc
    | some new =>
      rw [hrule] at hd
      exact h.replacements c new hrule d hd

/-- A symbol is known if it steers or is a letter with a rule. -/
theorem WellFormed.knows_iff (h : s.WellFormed) {c : Char} :
    s.knows c = true ↔ c ∈ controls ∨ isLetter c = true ∧ (s.rules.lookup c).isSome = true := by
  rw [knows, Bool.or_eq_true, List.contains_iff_mem]
  refine or_congr_right ⟨fun hsome => ⟨?_, hsome⟩, fun hrule => hrule.2⟩
  obtain ⟨new, hnew⟩ := Option.isSome_iff_exists.mp hsome
  exact h.letters c new hnew

/-! ### Expansion -/

/-- As long as no word is too long, the rounds go on to the last one. -/
theorem expandFrom_ok {done rounds : Nat} {word : List Char}
    (h : ∀ k, 0 < k → k ≤ rounds → byteSize (s.derive^[k] word) ≤ limit) :
    s.expandFrom limit done rounds word = .ok (s.derive^[rounds] word) := by
  induction rounds generalizing done word with
  | zero => rfl
  | succ rounds ih =>
    have hfirst : ¬ limit < byteSize (s.derive word) :=
      Nat.not_lt.mpr (h 1 Nat.one_pos (by omega))
    rw [expandFrom, deriveWithin_eq, if_neg hfirst]
    exact ih fun k _ hk => h (k + 1) (by omega) (by omega)

/-- A round that goes well keeps within the limit, and so do all that come after it. -/
theorem expandFrom_succ_eq_ok {done rounds : Nat} {word last : List Char} :
    s.expandFrom limit done (rounds + 1) word = .ok last
      ↔ byteSize (s.derive word) ≤ limit
        ∧ s.expandFrom limit (done + 1) rounds (s.derive word) = .ok last := by
  rw [expandFrom, deriveWithin_eq]
  by_cases hlong : limit < byteSize (s.derive word)
  · rw [if_pos hlong]
    exact ⟨nofun, fun h => absurd h.1 (Nat.not_le.mpr hlong)⟩
  · rw [if_neg hlong]
    exact ⟨fun h => ⟨Nat.le_of_not_lt hlong, h⟩, And.right⟩

/-- Whatever the limit, rounds that go on to the last one give the word after it. -/
theorem expandFrom_eq_ok {done rounds : Nat} {word last : List Char}
    (h : s.expandFrom limit done rounds word = .ok last) : last = s.derive^[rounds] word := by
  induction rounds generalizing done word with
  | zero => exact (Except.ok.inj h).symm
  | succ rounds ih => exact ih (expandFrom_succ_eq_ok.mp h).2

/-- A word that comes of a round is within the limit. -/
theorem byteSize_of_expandFrom {done rounds : Nat} {word last : List Char}
    (h : s.expandFrom limit done (rounds + 1) word = .ok last) : byteSize last ≤ limit := by
  induction rounds generalizing done word with
  | zero =>
    obtain ⟨hsize, hlast⟩ := expandFrom_succ_eq_ok.mp h
    obtain rfl := Except.ok.inj hlast
    exact hsize
  | succ rounds ih => exact ih (expandFrom_succ_eq_ok.mp h).2

/-- The first round whose word is too long is the one that is named. -/
theorem expandFrom_error {done rounds k : Nat} {word : List Char} (hk : k < rounds)
    (hlong : limit < byteSize (s.derive^[k + 1] word))
    (hshort : ∀ j, 0 < j → j ≤ k → byteSize (s.derive^[j] word) ≤ limit) :
    s.expandFrom limit done rounds word = .error ⟨limit, done + (k + 1)⟩ := by
  induction rounds generalizing done word k with
  | zero => omega
  -- The induction is on the rounds; the first one that is too long is `k` rounds ahead.
  | succ rounds ih =>
    rw [expandFrom, deriveWithin_eq]
    cases k with
    | zero =>
      have hfirst : limit < byteSize (s.derive word) := hlong
      rw [if_pos hfirst]
    | succ k =>
      have hfirst : ¬ limit < byteSize (s.derive word) :=
        Nat.not_lt.mpr (hshort 1 Nat.one_pos (by omega))
      have hrest (j : Nat) (_ : 0 < j) (hj : j ≤ k) :
          byteSize (s.derive^[j] (s.derive word)) ≤ limit := hshort (j + 1) (by omega) (by omega)
      rw [if_neg hfirst]
      dsimp only
      rw [ih (Nat.lt_of_succ_lt_succ hk) hlong hrest, Nat.add_assoc, Nat.add_comm 1]

/-- The rounds after which a word is too long, up to a last one.  The start word is no result of a
    round. -/
def tooLong (s : Grammar) (limit rounds : Nat) : Set Nat :=
  {k | 0 < k ∧ k ≤ rounds ∧ limit < byteSize (s.word k)}

/-- If the last word is within the limit, so is each one before, and expanding ends well. -/
theorem WellFormed.expand_ok (h : s.WellFormed) {rounds : Nat}
    (hsize : byteSize (s.word rounds) ≤ limit) : s.expand rounds limit = .ok (s.word rounds) :=
  expandFrom_ok fun _ _ hk => Nat.le_trans (h.byteSize_word_mono hk) hsize

/-- Expanding ends with the word of the last round. -/
theorem expand_eq_ok {rounds : Nat} {last : List Char} (h : s.expand rounds limit = .ok last) :
    last = s.word rounds :=
  expandFrom_eq_ok h

/-- Expanding fails at the first word that is too long. -/
theorem expand_error {rounds k : Nat} (hleast : IsLeast (s.tooLong limit rounds) k) :
    s.expand rounds limit = .error ⟨limit, k⟩ := by
  obtain ⟨⟨hpos, hk, hlong⟩, hlower⟩ := hleast
  obtain ⟨k, rfl⟩ : ∃ j, k = j + 1 := ⟨k - 1, by omega⟩
  have hshort (j : Nat) (hj : 0 < j) (hle : j ≤ k) : byteSize (s.word j) ≤ limit := by
    by_contra hlong
    have hfirst := hlower ⟨hj, by omega, Nat.lt_of_not_le hlong⟩
    omega
  rw [expand, expandFrom_error (Nat.lt_of_succ_le hk) hlong hshort, Nat.zero_add]

/-- What an error says of an expansion: the limit and the round. -/
theorem ExpandError.message_eq (limit round : Nat) :
    ExpandError.message ⟨limit, round⟩ = "Expansion exceeds " ++ toString limit
      ++ " symbols at depth " ++ toString round ++ "; lower the depth" := rfl

/-- Where the last word is too long, there is a first one that is, and it is named. -/
theorem exists_expand_error {rounds : Nat} (hrounds : 0 < rounds)
    (hlong : limit < byteSize (s.word rounds)) :
    ∃ k, IsLeast (s.tooLong limit rounds) k ∧ s.expand rounds limit = .error ⟨limit, k⟩ := by
  have hsome : ∃ k, k ∈ s.tooLong limit rounds := ⟨rounds, hrounds, Nat.le_refl _, hlong⟩
  classical
  have hleast : IsLeast (s.tooLong limit rounds) (Nat.find hsome) :=
    ⟨Nat.find_spec hsome, fun k hk => Nat.find_min' hsome hk⟩
  exact ⟨_, hleast, expand_error hleast⟩

/-- **Expansion.** Expanding a grammar gives the word after so many rounds if that takes at most
    `limit` bytes, and otherwise names the limit and the first round whose word takes more, in the
    error and in its wording.  No round leaves the start word as it is.  All words consist of control
    symbols and letters with rules. -/
theorem expand_eq {start rules : String} {s : Grammar} (h : read start rules = .ok s)
    (limit : Nat) :
    s.expand 0 limit = .ok s.start
      ∧ (∀ rounds, 0 < rounds →
        (s.expand rounds limit = .ok (s.word rounds)
          ↔ (String.ofList (s.word rounds)).utf8ByteSize ≤ limit)
        ∧ (limit < (String.ofList (s.word rounds)).utf8ByteSize →
          ∃ k, IsLeast (s.tooLong limit rounds) k ∧ s.expand rounds limit = .error ⟨limit, k⟩
            ∧ ExpandError.message ⟨limit, k⟩ = "Expansion exceeds " ++ toString limit
              ++ " symbols at depth " ++ toString k ++ "; lower the depth"))
      ∧ ∀ rounds, ∀ c ∈ s.word rounds,
        c ∈ controls ∨ isLetter c = true ∧ (s.rules.lookup c).isSome = true := by
  have hwf := read_wellFormed h
  refine ⟨rfl, fun rounds hrounds => ⟨⟨fun hok => ?_, fun hsize => ?_⟩, fun hsize => ?_⟩,
    fun rounds c hc => hwf.knows_iff.mp (hwf.knows_word rounds c hc)⟩
  -- An error at some round would contradict the success.
  · rw [utf8ByteSize_ofList]
    by_contra hsize
    obtain ⟨k, -, herror⟩ := exists_expand_error hrounds (Nat.lt_of_not_le hsize)
    rw [hok] at herror
    cases herror
  · rw [utf8ByteSize_ofList] at hsize
    exact hwf.expand_ok hsize
  · rw [utf8ByteSize_ofList] at hsize
    obtain ⟨k, hleast, herror⟩ := exists_expand_error hrounds hsize
    exact ⟨k, hleast, herror, ExpandError.message_eq limit k⟩

/-- A grammar whose third word is the first one that is too long. -/
theorem expand_eq_doubled :
    ∃ s e, read "F" "F -> F+F" = .ok s
      ∧ s.expand 2 7 = .ok "F+F+F+F".toList ∧ s.expand 4 7 = .error e ∧ e = ⟨7, 3⟩
      ∧ e.message = "Expansion exceeds 7 symbols at depth 3; lower the depth" := by
  obtain ⟨s, hs⟩ : ∃ s : Grammar, s = ⟨['F'], [('F', ['F', '+', 'F'])]⟩ := ⟨_, rfl⟩
  have hread : read "F" "F -> F+F" = .ok s := by
    rw [hs]
    rfl
  obtain ⟨-, hrounds, -⟩ := expand_eq hread 7
  obtain ⟨k, ⟨⟨hpos, hk, hlong⟩, hlower⟩, herror, hmessage⟩ :=
    (hrounds 4 (by decide)).2 (by rw [hs]; decide)
  have hthird : 3 ∈ s.tooLong 7 4 := ⟨by decide, by decide, by rw [hs]; decide⟩
  have hle := hlower hthird
  have hne (j : Nat) (hj : byteSize (s.word j) ≤ 7) : k ≠ j := by
    rintro rfl
    omega
  have h1 := hne 1 (by rw [hs]; decide)
  have h2 := hne 2 (by rw [hs]; decide)
  obtain rfl : k = 3 := by omega
  refine ⟨s, _, hread, ?_, herror, rfl, hmessage⟩
  rw [(hrounds 2 (by decide)).1.mpr (by rw [hs]; decide), hs]
  rfl

/-- A start word that is too long is named by the first round, and not by the number of rounds that
    have led to it. -/
theorem expand_long_start :
    ∃ s e, read "FF" "F -> F" = .ok s ∧ s.expand 1 1 = .error e ∧ e.round = 1
      ∧ ¬ IsLeast {k | k ≤ 1 ∧ 1 < byteSize (s.word k)} e.round := by
  refine ⟨⟨['F', 'F'], [('F', ['F'])]⟩, ⟨1, 1⟩, rfl, rfl, rfl, fun hleast => ?_⟩
  have hstart : 1 ≤ 0 := hleast.2 ⟨by decide, by decide⟩
  omega

end Questionnaire.Lindenmayer.Grammar
