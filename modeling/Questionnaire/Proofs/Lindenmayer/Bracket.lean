import Questionnaire.Lindenmayer.Turtle
import Questionnaire.Proofs.Lindenmayer.Grammar

namespace Questionnaire.Lindenmayer

/-!
# Brackets

A closing bracket takes the turtle back to where the bracket that it closes was opened.  A walk
fails only where there is none to close, so words in which brackets come in pairs can be drawn.

* `IsBalanced` — a word in which brackets come in pairs.
* `height?` — the number of open brackets after a word; `height?_eq_some_iff` counts them.
* `Grammar.height?_word` — derivation leaves open brackets as they are, if every replacement is
  balanced.
* `Walk.run_height` — the turtle remembers as many places as there are open brackets.
* `Grammar.expand_draws` — what a balanced grammar expands to is balanced and can be drawn.
-/

/-! ### Balanced words -/

/-- Brackets come in pairs: no beginning of a word has more closing ones than opening ones, and the
    whole word has as many of both. -/
structure IsBalanced (word : List Char) : Prop where
  closing_le : ∀ front, front <+: word → front.count ']' ≤ front.count '['
  same : word.count ']' = word.count '['

/-- The number of open brackets after one more symbol, unless that closes a bracket where none is
    open. -/
def heightAfter (height : Nat) (symbol : Char) : Option Nat :=
  if symbol = '[' then some (height + 1)
  else if symbol = ']' then if height = 0 then none else some (height - 1)
  else some height

/-- The number of open brackets after a word before which `height` of them are open. -/
def height? (height : Nat) (word : List Char) : Option Nat := word.foldlM heightAfter height

/-- Nothing leaves the height as it is. -/
theorem height?_nil (height : Nat) : height? height [] = some height := rfl

/-- Symbols change the height one by one. -/
theorem height?_cons (height : Nat) (symbol : Char) (word : List Char) :
    height? height (symbol :: word) = (heightAfter height symbol).bind (height? · word) := rfl

/-- Two words in a row change the height one after the other. -/
theorem height?_append (height : Nat) (word more : List Char) :
    height? height (word ++ more) = (height? height word).bind (height? · more) :=
  List.foldlM_append

/-- A symbol closes at most one bracket, and then it opens none. -/
theorem heightAfter_eq_some_iff {height after : Nat} {symbol : Char} :
    heightAfter height symbol = some after
      ↔ [symbol].count ']' ≤ height + [symbol].count '['
        -- Only the brackets move the height, each by one.
        ∧ height + [symbol].count '[' = after + [symbol].count ']' := by
  unfold heightAfter
  by_cases hopen : symbol = '['
  · subst hopen
    simp
  · by_cases hclose : symbol = ']'
    · subst hclose
      cases height with
      | zero => simp
      | succ height => simp
    · simp [hopen, hclose]

/-- The height is what counting gives, as long as no beginning closes more brackets than are
    open. -/
theorem height?_eq_some_iff {height after : Nat} {word : List Char} :
    height? height word = some after
      ↔ (∀ front, front <+: word → front.count ']' ≤ height + front.count '[')
        ∧ height + word.count '[' = after + word.count ']' := by
  -- The induction is on the word.  What holds of its fronts holds of the first symbol, and of the
  -- fronts of what remains at the height after it.
  induction word generalizing height with
  | nil => simp [height?_nil]
  | cons symbol word ih =>
    have hcount (c : Char) (front : List Char) :
        (symbol :: front).count c = [symbol].count c + front.count c := by
      rw [← List.count_append, List.singleton_append]
    rw [height?_cons, Option.bind_eq_some_iff]
    constructor
    · rintro ⟨next, hnext, hrest⟩
      obtain ⟨hfirst, hnext⟩ := heightAfter_eq_some_iff.mp hnext
      obtain ⟨hfronts, hall⟩ := ih.mp hrest
      constructor
      · intro front hfront
        rcases List.prefix_cons_iff.mp hfront with rfl | ⟨back, rfl, hback⟩
        · simp
        · have hle := hfronts back hback
          rw [hcount ']' back, hcount '[' back]
          omega
      · rw [hcount ']' word, hcount '[' word]
        omega
    · rintro ⟨hfronts, hall⟩
      have hfirst := hfronts [symbol] (by simp)
      obtain ⟨next, hnext⟩ := Nat.exists_eq_add_of_le' hfirst
      refine ⟨next, heightAfter_eq_some_iff.mpr ⟨hfirst, hnext⟩, ih.mpr ⟨?_, ?_⟩⟩
      · intro front hfront
        have hle := hfronts (symbol :: front) (by simpa using hfront)
        rw [hcount ']' front, hcount '[' front] at hle
        omega
      · rw [hcount ']' word, hcount '[' word] at hall
        omega

/-- A word is balanced if no bracket is open after it, and none of its own was missing on the
    way. -/
theorem isBalanced_iff {word : List Char} : IsBalanced word ↔ height? 0 word = some 0 := by
  rw [height?_eq_some_iff]
  constructor
  · intro h
    exact ⟨fun front hfront => by simpa using h.closing_le front hfront, by simpa using h.same.symm⟩
  · rintro ⟨hfronts, hall⟩
    exact ⟨fun front hfront => by simpa using hfronts front hfront, by simpa using hall.symm⟩

/-- Whether a word is balanced can be decided. -/
instance (word : List Char) : Decidable (IsBalanced word) := decidable_of_iff _ isBalanced_iff.symm

/-- A balanced word leaves the brackets before it as they are. -/
theorem IsBalanced.height? {word : List Char} (h : IsBalanced word) (height : Nat) :
    height? height word = some height := by
  rw [height?_eq_some_iff]
  refine ⟨fun front hfront => ?_, by rw [h.same]⟩
  have hle := h.closing_le front hfront
  omega

/-! ### Derivation -/

namespace Grammar

variable {s : Grammar}

/-- Every replacement is balanced. -/
def ReplacesBalanced (s : Grammar) : Prop :=
  ∀ c new, s.rules.lookup c = some new → IsBalanced new

/-- A replacement changes the height as the symbol does that it replaces: a symbol with a rule is a
    letter, and a balanced word changes nothing. -/
theorem WellFormed.height?_replacement (hwf : s.WellFormed) (hrules : s.ReplacesBalanced)
    (height : Nat) (c : Char) : height? height (s.replacement c) = heightAfter height c := by
  unfold replacement
  cases hrule : s.rules.lookup c with
  -- A symbol without a rule is kept; one with a rule is a letter, and no bracket.
  | none =>
    rw [Option.getD_none, height?_cons]
    exact Option.bind_fun_some _
  | some new =>
    have hletter := hwf.letters c new hrule
    have hopen : c ≠ '[' := by
      rintro rfl
      exact absurd hletter (by decide)
    have hclose : c ≠ ']' := by
      rintro rfl
      exact absurd hletter (by decide)
    rw [Option.getD_some, (hrules c new hrule).height?, heightAfter, if_neg hopen, if_neg hclose]

/-- With balanced replacements, a derived word changes the height as the word does. -/
theorem WellFormed.height?_derive (hwf : s.WellFormed) (hrules : s.ReplacesBalanced)
    (height : Nat) (word : List Char) : height? height (s.derive word) = height? height word := by
  induction word generalizing height with
  | nil => rfl
  | cons c word ih =>
    have hderive : s.derive (c :: word) = s.replacement c ++ s.derive word := rfl
    rw [hderive, height?_append, hwf.height?_replacement hrules, height?_cons]
    exact congrArg _ (funext fun next => ih next)

/-- Derivation leaves open brackets as they are. -/
theorem WellFormed.height?_word (hwf : s.WellFormed) (hrules : s.ReplacesBalanced)
    (height rounds : Nat) : height? height (s.word rounds) = height? height s.start := by
  induction rounds with
  | zero => rfl
  | succ rounds ih => rw [word_succ, hwf.height?_derive hrules, ih]

end Grammar

/-! ### Walks -/

namespace Walk

variable {pace : Pace}

/-- The turtle remembers one place for each open bracket. -/
theorem step_height (w : Walk) (pace : Pace) (symbol : Char) :
    (w.step pace symbol).map (·.remembered.length) = heightAfter w.remembered.length symbol := by
  -- A turtle is remembered at `[` and forgotten at `]`; the other symbols leave the stack alone.
  unfold step
  split
  · rfl
  · cases hremembered : w.remembered with
    | nil => rfl
    | cons turtle rest => rfl
  · rfl
  · rfl
  · rename_i hopen hclose _ _
    have hnone : heightAfter w.remembered.length symbol = some w.remembered.length := by
      rw [heightAfter, if_neg hopen, if_neg hclose]
    rw [hnone]
    split <;> rfl

/-- The states that are remembered are as many as the height tells. -/
theorem run_height (w : Walk) (pace : Pace) (index : Nat) (word : List Char) :
    (w.run pace index word).toOption.map (·.remembered.length)
      = height? w.remembered.length word := by
  induction word generalizing w index with
  | nil => rfl
  | cons symbol word ih =>
    rw [run, height?_cons, ← step_height w pace symbol]
    cases w.step pace symbol with
    | none => rfl
    | some next => exact ih next (index + 1)

/-- A walk over a balanced word comes to its end, and forgets all that it has remembered on the
    way. -/
theorem run_balanced {word : List Char} (h : IsBalanced word) (w : Walk) (pace : Pace)
    (index : Nat) :
    ∃ w', w.run pace index word = .ok w' ∧ w'.remembered.length = w.remembered.length := by
  have hheight := w.run_height pace index word
  rw [h.height?, Option.map_eq_some_iff] at hheight
  obtain ⟨w', hrun, hlength⟩ := hheight
  exact ⟨w', Except.toOption_eq_some.mp hrun, hlength⟩

end Walk

/-! ### Balanced grammars -/

/-- **Balanced grammars.** If the start word and all replacements of a grammar are balanced, then so
    is what it expands to.  Every walk over that comes to its end, where nothing is remembered, and
    gives its segments. -/
theorem Grammar.expand_draws {start rules : String} {s : Grammar} (h : read start rules = .ok s)
    (hstart : IsBalanced s.start) (hrules : s.ReplacesBalanced) {rounds limit : Nat}
    {word : List Char} (hexpand : s.expand rounds limit = .ok word) (pace : Pace)
    (initialAngle : Float) :
    IsBalanced word
      ∧ ∃ w, (Walk.start initialAngle).run pace 0 word = .ok w ∧ w.remembered = []
        ∧ trace word pace initialAngle = .ok w.drawn.reverse := by
  -- The height after a word does not change when the word is derived.
  have hwf := read_wellFormed h
  have hbalanced : IsBalanced word := by
    rw [isBalanced_iff, expand_eq_ok hexpand, hwf.height?_word hrules, ← isBalanced_iff]
    exact hstart
  obtain ⟨w, hrun, hlength⟩ := Walk.run_balanced hbalanced (Walk.start initialAngle) pace 0
  refine ⟨hbalanced, w, hrun, List.eq_nil_of_length_eq_zero hlength, ?_⟩
  rw [trace, hrun]
  rfl

/-- A branch within branches, drawn to its end. -/
theorem Grammar.expand_draws_branched :
    ∃ s word w, read "F[-F]" "F -> F[+F]F" = .ok s ∧ s.expand 2 100 = .ok word ∧ IsBalanced word
      ∧ (Walk.start 0).run ⟨['F'], 25, 10⟩ 0 word = .ok w ∧ w.remembered = []
      ∧ trace word ⟨['F'], 25, 10⟩ 0 = .ok w.drawn.reverse := by
  obtain ⟨s, hs⟩ : ∃ s : Grammar, s = ⟨"F[-F]".toList, [('F', "F[+F]F".toList)]⟩ := ⟨_, rfl⟩
  have hread : read "F[-F]" "F -> F[+F]F" = .ok s := by
    rw [hs]
    rfl
  have hstart : IsBalanced s.start := by
    rw [hs]
    decide
  have hrules : s.ReplacesBalanced := by
    intro c new hrule
    rw [hs] at hrule
    obtain ⟨-, rfl⟩ := Prod.mk.inj (List.mem_singleton.mp (mem_of_lookup hrule))
    decide
  have hexpand : s.expand 2 100 = .ok (s.word 2) := by
    rw [hs]
    rfl
  obtain ⟨hbalanced, w, hrun, hnone, htrace⟩ :=
    expand_draws hread hstart hrules hexpand ⟨['F'], 25, 10⟩ 0
  exact ⟨s, s.word 2, w, hread, hexpand, hbalanced, hrun, hnone, htrace⟩

end Questionnaire.Lindenmayer
