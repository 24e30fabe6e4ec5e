import Mathlib.Data.List.Forall2
import Questionnaire.Proofs.Keyed
import Questionnaire.Proofs.Lindenmayer.Grammar

namespace Questionnaire.Lindenmayer

/-!
# Texts of rules

Two texts describe a grammar: one is its start word, the other lists its rules between semicolons and
line ends.  The order in which rules are listed makes no difference, and nor do blanks.

* `IsRule` — the rule that a piece of text describes, taken apart at its first arrow.
* `Spells` — the pieces of text that spell a rule, put together with any blanks;
  `isRule_iff_spells` says that these are the same.
* `Grammar.IsDescribed` — the grammar that two texts describe.
* `Grammar.Same` — grammars that derive the same words, as `Grammar.Same.expand` says.
* `Grammar.read_described` — reading finds the grammar that is described, if there is one, and all
  listings of the same rules are read as the same grammar.
-/

open Text (IsGap StartsFull trim)

/-! ### Specification -/

/-- The pieces of a text between semicolons and line ends, but for those that are blank. -/
def rulePieces (text : List Char) : List (List Char) :=
  (text.splitOnP fun c => c == ';' || c == '\n').filter fun piece => !piece.all Text.isBlank

/-- The rule that a piece of text describes: before the first arrow stands one letter, and behind it
    a replacement, both with blanks around them. -/
def IsRule (piece : List Char) (rule : Char × List Char) : Prop :=
  ∃ left right, piece = left ++ ['-', '>'] ++ right
    ∧ (∀ lead rest, piece = lead ++ ['-', '>'] ++ rest → left.length ≤ lead.length)
    ∧ trim left = [rule.1] ∧ isLetter rule.1 = true ∧ trim right = rule.2 ∧ rule.2 ≠ []

/-- A piece of text spells a rule, with any blanks around the letter, the arrow and the
    replacement. -/
structure Spells (piece : List Char) (rule : Char × List Char) : Prop where
  letter : isLetter rule.1 = true
  nonempty : rule.2 ≠ []
  trimmed : trim rule.2 = rule.2
  blanks : ∃ first second third fourth,
    IsGap first ∧ IsGap second ∧ IsGap third ∧ IsGap fourth
      ∧ piece = first ++ rule.1 :: second ++ ['-', '>'] ++ third ++ rule.2 ++ fourth

/-- The grammar that two texts describe.  Its start word is not empty, it has one rule for each piece
    of text and no two for a letter, and of all symbols those that do not steer have a rule. -/
structure Grammar.IsDescribed (start rules : String) (s : Grammar) : Prop where
  start : s.start = trim start.toList
  nonempty : s.start ≠ []
  rules : List.Forall₂ IsRule (rulePieces rules.toList) s.rules
  distinct : (s.rules.map Prod.fst).Nodup
  known : ∀ word ∈ s.start :: s.rules.map Prod.snd, ∀ c ∈ word,
    c ∈ controls ∨ c ∈ s.rules.map Prod.fst

/-- Grammars with the same start word and the same rule for each letter. -/
structure Grammar.Same (s t : Grammar) : Prop where
  start : s.start = t.start
  rules : ∀ c, s.rules.lookup c = t.rules.lookup c

/-! ### Pieces -/

variable {piece : List Char} {rule : Char × List Char}

/-- A letter is no blank. -/
theorem isBlank_of_isLetter {c : Char} (h : isLetter c = true) : Text.isBlank c = false := by
  simp only [isLetter, Bool.and_eq_true, decide_eq_true_eq] at h
  have hrange : 65 ≤ c.toNat ∧ c.toNat ≤ 90 := h
  simp [Text.isBlank]
  omega

/-- A letter is not the beginning of an arrow. -/
theorem ne_minus_of_isLetter {c : Char} (h : isLetter c = true) : c ≠ '-' := by
  rintro rfl
  cases h

/-- A letter between blanks is trimmed to itself. -/
theorem trim_letter {first second : List Char} {c : Char} (hc : isLetter c = true)
    (hfirst : IsGap first) (hsecond : IsGap second) : trim (first ++ c :: second) = [c] := by
  have hfull : StartsFull [c] := Text.startsFull_cons (isBlank_of_isLetter hc) []
  rw [List.append_cons]
  exact Text.trim_padded hfirst hsecond (by simp) hfull hfull

/-- The replacement of a rule begins with no blank. -/
theorem Spells.startsFull (h : Spells piece rule) : StartsFull rule.2 := by
  rw [← h.trimmed]
  exact Text.startsFull_trim rule.2

/-- The replacement of a rule ends with no blank. -/
theorem Spells.endsFull (h : Spells piece rule) : StartsFull rule.2.reverse := by
  rw [← h.trimmed]
  exact Text.endsFull_trim rule.2

/-- A piece of text describes the rules that it spells. -/
theorem isRule_iff_spells : IsRule piece rule ↔ Spells piece rule := by
  constructor
  · rintro ⟨left, right, rfl, -, hleft, hletter, hright, hnonempty⟩
    obtain ⟨first, second, hfirst, hsecond, hletters⟩ := Text.exists_gaps left
    obtain ⟨third, fourth, hthird, hfourth, hreplacement⟩ := Text.exists_gaps right
    -- Around the letter and around the replacement there are only blanks.
    rw [hleft] at hletters
    rw [hright] at hreplacement
    refine ⟨hletter, hnonempty, by rw [← hright, Text.trim_trim], first, second, third, fourth,
      hfirst, hsecond, hthird, hfourth, ?_⟩
    rw [hletters, hreplacement]
    simp
  · intro h
    -- The minus of the arrow is the first one, since neither blanks nor the letter are a minus.
    obtain ⟨first, second, third, fourth, hfirst, hsecond, hthird, hfourth, rfl⟩ := h.blanks
    have hright : trim (third ++ rule.2 ++ fourth) = rule.2 :=
      Text.trim_padded hthird hfourth h.nonempty h.startsFull h.endsFull
    have hsplit : first ++ rule.1 :: second ++ ['-', '>'] ++ third ++ rule.2 ++ fourth
        = first ++ rule.1 :: second ++ '-' :: ['>'] ++ (third ++ rule.2 ++ fourth) := by simp
    have hminus : '-' ∉ first ++ rule.1 :: second := by
      intro hmem
      rcases List.mem_append.mp hmem with hmem | hmem
      · exact absurd (hfirst _ hmem) (by decide)
      · rcases List.mem_cons.mp hmem with heq | hmem
        · exact ne_minus_of_isLetter h.letter heq.symm
        · exact absurd (hsecond _ hmem) (by decide)
    obtain ⟨-, hleast⟩ := Text.splitOnce_eq_some_iff.mp
      (Text.splitOnce_append hminus ['>'] (third ++ rule.2 ++ fourth))
    refine ⟨first ++ rule.1 :: second, third ++ rule.2 ++ fourth, hsplit, ?_,
      trim_letter h.letter hfirst hsecond, h.letter, hright, h.nonempty⟩
    rw [hsplit]
    exact hleast

/-- Blanks at the ends of a piece of text make no difference. -/
theorem spells_trim : Spells (trim piece) rule ↔ Spells piece rule := by
  constructor
  · intro h
    obtain ⟨before, after, hbefore, hafter, hpiece⟩ := Text.exists_gaps piece
    obtain ⟨first, second, third, fourth, hfirst, hsecond, hthird, hfourth, hblanks⟩ := h.blanks
    refine ⟨h.letter, h.nonempty, h.trimmed, before ++ first, second, third, fourth ++ after,
      ?_, hsecond, hthird, ?_, ?_⟩
    · exact fun c hc => (List.mem_append.mp hc).elim (hbefore c) (hfirst c)
    · exact fun c hc => (List.mem_append.mp hc).elim (hfourth c) (hafter c)
    · rw [hpiece, hblanks]
      simp
  · intro h
    -- The blanks inside stay in the piece, as it starts with the letter and ends with no blank.
    obtain ⟨first, second, third, fourth, hfirst, hsecond, hthird, hfourth, rfl⟩ := h.blanks
    have hstart : StartsFull (rule.1 :: second ++ ['-', '>'] ++ third ++ rule.2) :=
      Text.startsFull_cons (isBlank_of_isLetter h.letter) _
    have hend : StartsFull (rule.1 :: second ++ ['-', '>'] ++ third ++ rule.2).reverse := by
      rw [List.reverse_append]
      intro c hc
      rw [List.head?_append_of_ne_nil _ (by simpa using h.nonempty)] at hc
      exact h.endsFull c hc
    have htrim : trim (first ++ rule.1 :: second ++ ['-', '>'] ++ third ++ rule.2 ++ fourth)
        = rule.1 :: second ++ ['-', '>'] ++ third ++ rule.2 := by
      have hpadded := Text.trim_padded hfirst hfourth (by simp) hstart hend
      simpa using hpadded
    exact ⟨h.letter, h.nonempty, h.trimmed, [], second, third, [], nofun, hsecond, hthird, nofun,
      by simpa using htrim⟩

/-- A rule is read from the pieces of text that describe it. -/
theorem readRule_eq_ok : readRule piece = .ok rule ↔ IsRule piece rule := by
  -- Each check of the reading is a part of being a rule.
  constructor
  · intro h
    unfold readRule at h
    split at h
    · cases h
    · rename_i left right hsplit
      obtain ⟨hpiece, hfirst⟩ := Text.splitOnce_eq_some_iff.mp hsplit
      split at h
      · rename_i letter hletter
        split at h
        · cases h
        · rename_i hupper
          dsimp only at h
          split at h
          · cases h
          · rename_i hfull
            obtain rfl := Except.ok.inj h
            exact ⟨left, right, hpiece, hfirst, hletter, by simpa using hupper, rfl,
              by simpa using hfull⟩
      · cases h
  · rintro ⟨left, right, hpiece, hfirst, hleft, hletter, hright, hnonempty⟩
    rw [readRule, Text.splitOnce_eq_some_iff.mpr ⟨hpiece, hfirst⟩]
    simp [hleft, hletter, hright, hnonempty]

/-- A piece is read as the rule that it describes, whatever blanks are around it. -/
theorem readRule_trim : readRule (trim piece) = .ok rule ↔ IsRule piece rule := by
  rw [readRule_eq_ok, isRule_iff_spells, spells_trim, ← isRule_iff_spells]

/-- A piece of text describes one rule. -/
theorem IsRule.unique : Relator.RightUnique IsRule := by
  intro piece rule other hrule hother
  exact Except.ok.inj ((readRule_eq_ok.mpr hrule).symm.trans (readRule_eq_ok.mpr hother))

/-! ### Listings -/

/-- The texts of rules are the pieces, trimmed. -/
theorem ruleTexts_eq (text : List Char) : ruleTexts text = (rulePieces text).map trim := by
  rw [ruleTexts, rulePieces, List.filter_map]
  congr 2
  funext piece
  rw [Function.comp_apply, Bool.eq_iff_iff, Bool.not_eq_true', Bool.not_eq_true',
    ← Bool.not_eq_true, ← Bool.not_eq_true, List.isEmpty_iff, Text.trim_eq_nil_iff,
    List.all_eq_true]
  rfl

/-- Rules are read one after the other, as long as none is for a letter that has had one. -/
theorem readRules_eq_ok {known rules : List (Char × List Char)} {texts : List (List Char)}
    (hknown : (known.map Prod.fst).Nodup) : readRules known texts = .ok rules
      ↔ ∃ new, rules = known ++ new
        ∧ List.Forall₂ (fun text rule => readRule text = .ok rule) texts new
        ∧ (rules.map Prod.fst).Nodup := by
  induction texts generalizing known with
  | nil =>
    constructor
    · rintro ⟨⟩
      exact ⟨[], by simp, .nil, hknown⟩
    · rintro ⟨new, rfl, hnew, -⟩
      cases hnew
      simp [readRules]
  | cons text texts ih =>
    rw [readRules]
    cases hrule : readRule text with
    | error e => simp [List.forall₂_cons_left_iff, hrule]
    | ok rule =>
      obtain ⟨letter, replacement⟩ := rule
      dsimp only
      split
      · rename_i hagain
        -- the letter has had a rule, so there would be two
        have hmem := Keyed.isSome_lookup_iff_mem.mp hagain
        constructor
        · intro h
          cases h
        · rintro ⟨new, rfl, hnew, hdistinct⟩
          obtain ⟨_, later, hfirst, -, rfl⟩ := List.forall₂_cons_left_iff.mp hnew
          obtain rfl := Except.ok.inj (hrule.symm.trans hfirst)
          rw [List.map_append, List.nodup_append] at hdistinct
          exact absurd rfl (hdistinct.2.2 letter hmem letter (by simp))
      · rename_i hother
        have hmem : letter ∉ known.map Prod.fst :=
          fun hmem => hother (Keyed.isSome_lookup_iff_mem.mpr hmem)
        have hmore : ((known ++ [(letter, replacement)]).map Prod.fst).Nodup := by
          rw [List.map_append, List.nodup_append]
          refine ⟨hknown, by simp, fun a ha b hb => ?_⟩
          obtain rfl : b = letter := by simpa using hb
          rintro rfl
          exact hmem ha
        rw [ih hmore]
        constructor
        · rintro ⟨later, rfl, hlater, hdistinct⟩
          exact ⟨(letter, replacement) :: later, by simp, .cons hrule hlater, hdistinct⟩
        · rintro ⟨new, rfl, hnew, hdistinct⟩
          obtain ⟨_, later, hfirst, hlater, rfl⟩ := List.forall₂_cons_left_iff.mp hnew
          obtain rfl := Except.ok.inj (hrule.symm.trans hfirst)
          exact ⟨later, by simp, hlater, hdistinct⟩

/-! ### Grammars -/

namespace Grammar

variable {s t : Grammar} {start rules : String}

/-- A symbol is known if it steers or has a rule. -/
theorem knows_iff_mem {c : Char} :
    s.knows c = true ↔ c ∈ controls ∨ c ∈ s.rules.map Prod.fst := by
  rw [knows, Bool.or_eq_true, List.contains_iff_mem, Keyed.isSome_lookup_iff_mem]

/-- A grammar passes the check if it knows all of its symbols. -/
theorem check_of_knows
    (h : ∀ word ∈ s.start :: s.rules.map Prod.snd, ∀ c ∈ word, s.knows c = true) :
    s.check = .ok s := by
  have hunknown {word : List Char} (hword : word ∈ s.start :: s.rules.map Prod.snd) :
      s.unknown? word = none := by
    simpa [unknown?] using h word hword
  rw [check, hunknown List.mem_cons_self]
  dsimp only
  split
  · rename_i hsome
    obtain ⟨rule, hrule, hfound⟩ := List.exists_of_findSome?_eq_some hsome
    rw [hunknown (List.mem_cons_of_mem _ (List.mem_map_of_mem hrule))] at hfound
    cases hfound
  · rfl

/-- Two texts are read as the grammar that they describe. -/
theorem read_eq_ok : read start rules = .ok s ↔ s.IsDescribed start rules := by
  have hrules (known : List (Char × List Char)) :
      readRules [] (ruleTexts rules.toList) = .ok known
        ↔ List.Forall₂ IsRule (rulePieces rules.toList) known ∧ (known.map Prod.fst).Nodup := by
    rw [readRules_eq_ok (by simp), ruleTexts_eq]
    simp [List.forall₂_map_left_iff, readRule_trim]
  -- The checks come in the order of the source: an empty start, the rules, the unknown symbols.
  unfold read
  dsimp only
  constructor
  · intro h
    split at h
    · cases h
    · rename_i hfull
      obtain ⟨known, hknown, hcheck⟩ := Except.bind_eq_ok.mp h
      obtain ⟨hlisted, hdistinct⟩ := (hrules known).mp hknown
      obtain ⟨rfl, hstart, hnew⟩ := check_ok hcheck
      refine ⟨rfl, by simpa using hfull, hlisted, hdistinct, ?_⟩
      intro word hword c hc
      apply knows_iff_mem.mp
      rcases List.mem_cons.mp hword with rfl | hword
      · exact hstart c hc
      · obtain ⟨rule, hrule, rfl⟩ := List.mem_map.mp hword
        exact hnew rule hrule c hc
  · intro h
    obtain ⟨word, known⟩ := s
    obtain rfl : word = trim start.toList := h.start
    rw [if_neg (by simpa using h.nonempty), Except.bind_eq_ok]
    refine ⟨known, (hrules known).mpr ⟨h.rules, h.distinct⟩, check_of_knows ?_⟩
    exact fun word hword c hc => knows_iff_mem.mpr (h.known word hword c hc)

/-! ### The same grammar -/

/-- Grammars with the same rules derive the same from a word. -/
theorem Same.derive (h : s.Same t) (word : List Char) : s.derive word = t.derive word := by
  have hreplacement : s.replacement = t.replacement := by
    funext c
    rw [replacement, replacement, h.rules]
  rw [Grammar.derive, Grammar.derive, hreplacement]

/-- Grammars with the same rules expand a word to the same, round by round. -/
theorem Same.expandFrom (h : s.Same t) (limit done rounds : Nat) (word : List Char) :
    s.expandFrom limit done rounds word = t.expandFrom limit done rounds word := by
  induction rounds generalizing done word with
  | zero => rfl
  | succ rounds ih =>
    rw [Grammar.expandFrom, Grammar.expandFrom, deriveWithin_eq, deriveWithin_eq, h.derive]
    split
    · rfl
    · exact ih _ _

/-- The same grammar expands in the same way. -/
theorem Same.expand (h : s.Same t) (rounds limit : Nat) :
    s.expand rounds limit = t.expand rounds limit := by
  rw [Grammar.expand, Grammar.expand, h.start, h.expandFrom]

/-- The rules of a grammar that is described are those that are listed. -/
theorem IsDescribed.rules_eq (h : s.IsDescribed start rules) {listed : List (Char × List Char)}
    (hlisted : List.Forall₂ Spells (rulePieces rules.toList) listed) : s.rules = listed :=
  IsRule.unique.forall₂ h.rules
    (hlisted.imp fun _ _ hspells => isRule_iff_spells.mpr hspells)

/-- The same rules in another order describe a grammar too. -/
theorem IsDescribed.reordered (h : s.IsDescribed start rules) {rules' : String}
    {listed : List (Char × List Char)}
    (hlisted : List.Forall₂ Spells (rulePieces rules'.toList) listed)
    (hperm : s.rules.Perm listed) : (⟨s.start, listed⟩ : Grammar).IsDescribed start rules' where
  start := h.start
  nonempty := h.nonempty
  rules := hlisted.imp fun _ _ hspells => isRule_iff_spells.mpr hspells
  distinct := (hperm.map _).nodup h.distinct
  known word hword c hc := by
    rw [← (hperm.map Prod.fst).mem_iff]
    apply h.known word _ c hc
    simpa [hperm.mem_iff] using hword

/-- **Rules.** Two texts are read as a grammar if and only if they describe it.  All texts that list
    the same rules, in whatever order, with whatever blanks around letters, arrows and replacements
    and with semicolons or line ends in between, are read as the same grammar, or all are not. -/
theorem read_described (start : String) :
    (∀ rules s, read start rules = .ok s ↔ s.IsDescribed start rules)
      ∧ ∀ rules rules' listed listed',
        List.Forall₂ Spells (rulePieces rules.toList) listed →
        List.Forall₂ Spells (rulePieces rules'.toList) listed' → listed.Perm listed' →
        ((∃ s, read start rules = .ok s) ↔ ∃ s, read start rules' = .ok s)
        ∧ ∀ s t, read start rules = .ok s → read start rules' = .ok t →
          s.Same t ∧ ∀ rounds limit, s.expand rounds limit = t.expand rounds limit := by
  -- The listing of a text is determined by it, so equal listings are all that matters.
  refine ⟨fun rules s => read_eq_ok, fun rules rules' listed listed' hlisted hlisted' hperm => ?_⟩
  simp only [read_eq_ok]
  refine ⟨⟨?_, ?_⟩, fun s t hs ht => ?_⟩
  · rintro ⟨s, hs⟩
    exact ⟨_, hs.reordered hlisted' (hs.rules_eq hlisted ▸ hperm)⟩
  · rintro ⟨t, ht⟩
    exact ⟨_, ht.reordered hlisted (ht.rules_eq hlisted' ▸ hperm.symm)⟩
  · have hsame : s.Same t := by
      refine ⟨hs.start.trans ht.start.symm, Keyed.lookup_eq_of_perm ?_ hs.distinct⟩
      rw [hs.rules_eq hlisted, ht.rules_eq hlisted']
      exact hperm
    exact ⟨hsame, hsame.expand⟩

/-- Two listings of the same rules, in another order and with other blanks and separators. -/
theorem read_described_reordered :
    ∃ s t, read "X" "F -> FF; X -> -[F]" = .ok s ∧ read "X" "\nX->-[F]\t;;F  ->FF\n" = .ok t
      ∧ s.Same t ∧ ∀ rounds limit, s.expand rounds limit = t.expand rounds limit := by
  have hlisted : List.Forall₂ Spells (rulePieces "F -> FF; X -> -[F]".toList)
      [('F', ['F', 'F']), ('X', ['-', '[', 'F', ']'])] :=
    .cons ⟨by decide, by decide, by decide, [], [' '], [' '], [], by decide, by decide, by decide,
        by decide, by decide⟩ <|
    .cons ⟨by decide, by decide, by decide, [' '], [' '], [' '], [], by decide, by decide, by decide,
        by decide, by decide⟩ .nil
  have hlisted' : List.Forall₂ Spells (rulePieces "\nX->-[F]\t;;F  ->FF\n".toList)
      [('X', ['-', '[', 'F', ']']), ('F', ['F', 'F'])] :=
    .cons ⟨by decide, by decide, by decide, [], [], [], ['\t'], by decide, by decide, by decide,
        by decide, by decide⟩ <|
    .cons ⟨by decide, by decide, by decide, [], [' ', ' '], [], [], by decide, by decide, by decide,
        by decide, by decide⟩ .nil
  obtain ⟨hsuccess, hsame⟩ := (read_described "X").2 _ _ _ _ hlisted hlisted' (.swap ..)
  obtain ⟨t, ht⟩ := hsuccess.mp ⟨_, rfl⟩
  exact ⟨_, t, rfl, ht, hsame _ t rfl ht⟩

end Grammar

end Questionnaire.Lindenmayer
