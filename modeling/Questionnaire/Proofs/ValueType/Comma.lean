import Mathlib.Data.List.Forall2
import Questionnaire.Proofs.Except
import Questionnaire.Proofs.ValueType.Split

namespace Questionnaire.ValueType

open Questionnaire.Text (IsGap StartsFull isBlank trim)

/-!
# Commas between arguments

A text is split where a comma stands outside of all brackets and quotes.  The arguments found in
this way never need splitting again, and whoever joins such arguments by commas gets them back,
whatever blanks stand around them.

* `Standing.behind` — the brackets and quotes that are open behind a text.
* `IsWhole` — a text without blanks at its ends that closes what it opens and holds no such comma.
* `IsRow` — texts with commas between them and blanks around them.
* `piecesFrom_eq_ok_iff` — the pieces of a text, from any place on.
* `split_eq_ok_iff` — a text is split into arguments exactly if it is a row of them.
-/

/-! ### Specification -/

/-- What is open behind a text: the number of brackets and parentheses opened so far less the number
    of those closed, and the quote that is to come, if the text ends between quotes. -/
structure Standing where
  depth : Int
  quote : Option Char
deriving DecidableEq

namespace Standing

/-- Nothing is open. -/
def outside : Standing := ⟨0, none⟩

/-- What is open behind one more character.  Between quotes only the closing quote counts. -/
def step (s : Standing) (c : Char) : Standing :=
  match s.quote with
  | some q => if c = q then { s with quote := none } else s
  | none =>
    if c = '"' ∨ c = '\x27' then { s with quote := some c }
    else if c = '[' ∨ c = '(' then { s with depth := s.depth + 1 }
    else if c = ']' ∨ c = ')' then { s with depth := s.depth - 1 }
    else s

/-- What is open behind a further text. -/
def behind (s : Standing) (cs : List Char) : Standing := cs.foldl step s

end Standing

/-- From a place on, a text closes what is open there and all that it opens itself.  It never closes
    more than is open, and has no comma where nothing is open. -/
structure IsPiece (s : Standing) (cs : List Char) : Prop where
  closed : s.behind cs = .outside
  nonneg : ∀ front, front <+: cs → 0 ≤ (s.behind front).depth
  comma : ∀ front back, cs = front ++ ',' :: back → s.behind front ≠ .outside

/-- A text that can be an argument. -/
structure IsWhole (cs : List Char) : Prop where
  nonempty : cs ≠ []
  trimmed : trim cs = cs
  piece : IsPiece .outside cs

/-- A text with blanks around it. -/
def IsPadded (cs padded : List Char) : Prop :=
  ∃ before after, IsGap before ∧ IsGap after ∧ padded = before ++ cs ++ after

/-- Texts joined by commas, with blanks around each of them. -/
def IsRow (texts : List (List Char)) (cs : List Char) : Prop :=
  ∃ padded, List.Forall₂ IsPadded texts padded ∧ cs = [','].intercalate padded

variable {s : Standing} {c : Char} {cs : List Char}

/-! ### Pieces, character by character -/

/-- The empty text is a piece where nothing is open. -/
theorem isPiece_nil : IsPiece s [] ↔ s = .outside := by
  constructor
  · exact IsPiece.closed
  · rintro rfl
    refine ⟨rfl, fun front hfront => ?_, fun front back h => by simp at h⟩
    rw [List.prefix_nil.mp hfront]
    exact Int.le_refl _

/-- A piece is taken character by character. -/
theorem isPiece_cons :
    IsPiece s (c :: cs) ↔ 0 ≤ s.depth ∧ (c = ',' → s ≠ .outside) ∧ IsPiece (s.step c) cs := by
  constructor
  · intro h
    -- A beginning of `cs` is one of `c :: cs` with `c` in front, and the same goes for its commas.
    refine ⟨h.nonneg [] List.nil_prefix, ?_, h.closed, fun front hfront => ?_,
      fun front back hcs => ?_⟩
    · rintro rfl
      exact h.comma [] cs rfl
    · exact h.nonneg (c :: front) (List.cons_prefix_cons.mpr ⟨rfl, hfront⟩)
    · exact h.comma (c :: front) back (by rw [hcs, List.cons_append])
  · rintro ⟨hdepth, hcomma, h⟩
    refine ⟨h.closed, fun front hfront => ?_, fun front back hcs => ?_⟩
    -- The other way round, a beginning of `c :: cs` is empty or goes on in `cs`.
    · rcases List.prefix_cons_iff.mp hfront with rfl | ⟨front, rfl, hrest⟩
      · exact hdepth
      · exact h.nonneg front hrest
    · cases front with
      | nil => exact hcomma (List.cons.inj hcs).1
      | cons d front =>
        obtain ⟨rfl, hrest⟩ := List.cons.inj hcs
        exact h.comma front back hrest

/-! ### Rows of pieces, character by character -/

/-- A text is a row of pieces, the first of which begins where something may be open. -/
def ArePieces (s : Standing) (cs : List Char) : List (List Char) → Prop
  | [] => False
  | first :: rest => cs = [','].intercalate (first :: rest) ∧ IsPiece s first
      ∧ ∀ piece ∈ rest, IsPiece .outside piece

variable {pieces : List (List Char)}

/-- Only a single empty text is joined to the empty text. -/
theorem nil_eq_intercalate {first : List Char} {rest : List (List Char)} :
    [] = [','].intercalate (first :: rest) ↔ first = [] ∧ rest = [] := by
  cases rest with
  | nil => simp [List.intercalate_singleton, @eq_comm _ []]
  | cons next others => simp [List.intercalate_cons_cons]

/-- A row begins with a character of its first text, or that text is empty and a comma ends it. -/
theorem cons_eq_intercalate {first : List Char} {rest : List (List Char)} :
    c :: cs = [','].intercalate (first :: rest)
      ↔ (∃ more, first = c :: more ∧ cs = [','].intercalate (more :: rest))
        ∨ (first = [] ∧ c = ',' ∧ ∃ next others, rest = next :: others
          ∧ cs = [','].intercalate (next :: others)) := by
  cases rest with
  | nil => cases first <;> simp [List.intercalate_singleton, and_comm, eq_comm]
  | cons next others =>
    cases first <;> simp [List.intercalate_cons_cons, and_comm, eq_comm]

/-- The empty text is one empty piece, where nothing is open. -/
theorem arePieces_nil : ArePieces s [] pieces ↔ s = .outside ∧ pieces = [[]] := by
  cases pieces with
  | nil => simp [ArePieces]
  | cons first rest =>
    rw [ArePieces, nil_eq_intercalate]
    constructor
    · rintro ⟨⟨rfl, rfl⟩, hfirst, -⟩
      exact ⟨isPiece_nil.mp hfirst, rfl⟩
    · rintro ⟨hs, hpieces⟩
      obtain ⟨rfl, rfl⟩ := List.cons.inj hpieces
      exact ⟨⟨rfl, rfl⟩, isPiece_nil.mpr hs, List.forall_mem_nil _⟩

/-- A comma outside of everything ends an empty piece. -/
theorem arePieces_comma :
    ArePieces .outside (',' :: cs) pieces
      ↔ ∃ rest, pieces = [] :: rest ∧ ArePieces .outside cs rest := by
  cases pieces with
  | nil => simp [ArePieces]
  | cons first rest =>
    rw [ArePieces, cons_eq_intercalate]
    constructor
    -- With a comma in front, the first piece is empty: no piece begins with a comma there.
    · rintro ⟨⟨more, rfl, -⟩ | ⟨rfl, -, next, others, rfl, hcs⟩, hfirst, hrest⟩
      · exact absurd rfl ((isPiece_cons.mp hfirst).2.1 rfl)
      · obtain ⟨hnext, hothers⟩ := List.forall_mem_cons.mp hrest
        exact ⟨next :: others, rfl, hcs, hnext, hothers⟩
    · rintro ⟨pieces, hpieces, h⟩
      obtain ⟨rfl, rfl⟩ := List.cons.inj hpieces
      cases rest with
      | nil => exact h.elim
      | cons next others =>
        obtain ⟨hcs, hnext, hothers⟩ := h
        exact ⟨.inr ⟨rfl, rfl, next, others, rfl, hcs⟩, isPiece_nil.mpr rfl,
          List.forall_mem_cons.mpr ⟨hnext, hothers⟩⟩

/-- Every other character belongs to the first piece. -/
theorem arePieces_cons (hs : 0 ≤ s.depth) (hc : ¬ (c = ',' ∧ s = .outside)) :
    ArePieces s (c :: cs) pieces
      ↔ ∃ first rest, pieces = (c :: first) :: rest ∧ ArePieces (s.step c) cs (first :: rest) := by
  cases pieces with
  | nil => simp [ArePieces]
  | cons first rest =>
    rw [ArePieces, cons_eq_intercalate]
    constructor
    · rintro ⟨⟨more, rfl, hcs⟩ | ⟨rfl, hcomma, -⟩, hfirst, hrest⟩
      · exact ⟨more, rest, rfl, hcs, (isPiece_cons.mp hfirst).2.2, hrest⟩
      · exact absurd ⟨hcomma, isPiece_nil.mp hfirst⟩ hc
    · rintro ⟨more, others, hpieces, hcs, hmore, hothers⟩
      obtain ⟨rfl, rfl⟩ := List.cons.inj hpieces
      exact ⟨.inl ⟨more, rfl, hcs⟩,
        isPiece_cons.mpr ⟨hs, fun hcomma houtside => hc ⟨hcomma, houtside⟩, hmore⟩, hothers⟩

/-! ### Splitting -/

/-- One step of the reader, who is never below the outermost level. -/
theorem piecesFrom_step (hs : 0 ≤ s.depth) (acc : List Char) (c : Char) (rest : List Char) :
    piecesFrom s.depth.toNat s.quote acc (c :: rest)
      = if c = ',' ∧ s = .outside then (acc.reverse :: ·) <$> piecesFrom 0 none [] rest
        else if (s.step c).depth < 0 then .error .unopened
        else piecesFrom (s.step c).depth.toNat (s.step c).quote (c :: acc) rest := by
  obtain ⟨depth, quote⟩ := s
  obtain ⟨depth, rfl⟩ := Int.eq_ofNat_of_zero_le hs
  have hnever (n : Nat) : ¬ (n : Int) < 0 := by omega
  have hsucc (n : Nat) : ¬ (n : Int) + 1 = 0 ∧ ¬ (n : Int) + 1 < 0 := by omega
  cases quote with
  -- The character is looked at as the splitter does: behind a quote, as a quote, then as a bracket,
  -- and last as a comma.
  | some q =>
    by_cases hq : c = q <;> simp [piecesFrom, Standing.step, Standing.outside, hq, hnever]
  | none =>
    by_cases hquote : c = '"' ∨ c = '\x27'
    · have hcomma : c ≠ ',' := by rcases hquote with rfl | rfl <;> decide
      simp [piecesFrom, Standing.step, hquote, hcomma, hnever]
    by_cases hopen : c = '[' ∨ c = '('
    · have hcomma : c ≠ ',' := by rcases hopen with rfl | rfl <;> decide
      simp [piecesFrom, Standing.step, hquote, hopen, hcomma, hsucc]
    by_cases hclose : c = ']' ∨ c = ')'
    · have hcomma : c ≠ ',' := by rcases hclose with rfl | rfl <;> decide
      cases depth <;> simp [piecesFrom, Standing.step, hquote, hopen, hclose, hcomma, hnever]
    by_cases hcomma : c = ','
    · subst hcomma
      cases depth <;> simp [piecesFrom, Standing.step, Standing.outside, hsucc]
    · simp [piecesFrom, Standing.step, hquote, hopen, hclose, hcomma, hnever]

/-- **Pieces.** From any place on, a text is split into the pieces that it is a row of. -/
theorem piecesFrom_eq_ok_iff (hs : 0 ≤ s.depth) {acc : List Char} :
    piecesFrom s.depth.toNat s.quote acc cs = .ok pieces
      ↔ ∃ first rest, pieces = (acc.reverse ++ first) :: rest ∧ ArePieces s cs (first :: rest) := by
  -- The brackets and quotes that are open change with every character, so they have to be general.
  induction cs generalizing s acc pieces with
  | nil =>
    have houtside : (s.depth.toNat = 0 && s.quote.isNone) = true ↔ s = .outside := by
      obtain ⟨depth, quote⟩ := s
      obtain ⟨depth, rfl⟩ := Int.eq_ofNat_of_zero_le hs
      simp [Standing.outside]
    simp only [arePieces_nil, piecesFrom, houtside]
    by_cases hs : s = .outside
    · simp [hs, eq_comm]
    · simp [hs]
  | cons c cs ih =>
    rw [piecesFrom_step hs]
    split
    case isTrue hends =>
      obtain ⟨rfl, rfl⟩ := hends
      simp only [arePieces_comma, Except.map_eq_ok]
      constructor
      · rintro ⟨pieces, hpieces, rfl⟩
        obtain ⟨first, rest, rfl, hrest⟩ := (ih hs).mp hpieces
        exact ⟨[], first :: rest, by simp, first :: rest, rfl, hrest⟩
      · rintro ⟨first, rest, rfl, pieces, hpieces, h⟩
        obtain ⟨rfl, rfl⟩ := List.cons.inj hpieces
        cases rest with
        | nil => exact h.elim
        | cons next others =>
          exact ⟨next :: others, (ih hs).mpr ⟨next, others, rfl, h⟩, by simp⟩
    case isFalse hgoes =>
      simp only [arePieces_cons hs hgoes]
      split
      case isTrue hbelow =>
        refine iff_of_false (by simp) ?_
        rintro ⟨-, -, -, first, rest, -, -, hfirst, -⟩
        exact absurd (hfirst.nonneg [] List.nil_prefix) (Int.not_le.mpr hbelow)
      case isFalse habove =>
        rw [ih (Int.not_lt.mp habove)]
        constructor
        · rintro ⟨first, rest, rfl, h⟩
          exact ⟨c :: first, rest, by simp, first, rest, rfl, h⟩
        · rintro ⟨first, rest, rfl, more, others, hpieces, h⟩
          obtain ⟨rfl, rfl⟩ := List.cons.inj hpieces
          exact ⟨more, rest, by simp, h⟩

/-! ### Blanks -/

/-- What is open is closed by one of the two kinds of quotes, if by any. -/
def Standing.IsProper (s : Standing) : Prop := ∀ q, s.quote = some q → q = '"' ∨ q = '\x27'

/-- Where nothing is open, no quote is. -/
theorem Standing.isProper_outside : outside.IsProper := nofun

/-- A character opens no other quotes than the two kinds. -/
theorem Standing.IsProper.step (h : s.IsProper) (c : Char) : (s.step c).IsProper := by
  intro q hq
  unfold Standing.step at hq
  split at hq
  · split at hq
    · cases hq
    · exact h q hq
  · rename_i hnone
    split at hq
    · cases hq
      assumption
    · repeat' split at hq
      all_goals
        rw [hnone] at hq
        cases hq

/-- A blank opens and closes nothing. -/
theorem Standing.IsProper.step_blank (h : s.IsProper) (hc : isBlank c = true) : s.step c = s := by
  have hne (d : Char) (hd : isBlank d = false) : c ≠ d := by
    rintro rfl
    rw [hc] at hd
    cases hd
  unfold Standing.step
  split
  · rename_i q hq
    have hcq : c ≠ q := by
      rcases h q hq with rfl | rfl
      · exact hne '"' (by decide)
      · exact hne '\x27' (by decide)
    rw [if_neg hcq]
  · simp [hne '"' (by decide), hne '\x27' (by decide), hne '[' (by decide), hne '(' (by decide),
      hne ']' (by decide), hne ')' (by decide)]

/-- A blank in front of a piece belongs to what is open there. -/
theorem isPiece_blank (hs : s.IsProper) (hc : isBlank c = true) :
    IsPiece s (c :: cs) ↔ IsPiece s cs := by
  have hcomma : c ≠ ',' := by
    rintro rfl
    exact absurd hc (by decide)
  rw [isPiece_cons, hs.step_blank hc]
  exact ⟨fun h => h.2.2, fun h => ⟨h.nonneg [] List.nil_prefix, fun heq => absurd heq hcomma, h⟩⟩

/-- Blanks in front do not matter to a piece. -/
theorem isPiece_gap_append {gap : List Char} (hs : s.IsProper) (hgap : IsGap gap) :
    IsPiece s (gap ++ cs) ↔ IsPiece s cs := by
  induction gap with
  | nil => exact Iff.rfl
  | cons c gap ih =>
    obtain ⟨hc, hgap⟩ := List.forall_mem_cons.mp hgap
    rw [List.cons_append, isPiece_blank hs hc, ih hgap]

/-- Blanks behind do not matter to a piece. -/
theorem isPiece_append_gap {gap : List Char} (hs : s.IsProper) (hgap : IsGap gap) :
    IsPiece s (cs ++ gap) ↔ IsPiece s cs := by
  induction cs generalizing s with
  | nil =>
    have hfront : IsPiece s (gap ++ []) ↔ IsPiece s [] := isPiece_gap_append hs hgap
    rwa [List.append_nil] at hfront
  | cons c cs ih => rw [List.cons_append, isPiece_cons, isPiece_cons, ih (hs.step c)]

/-- Blanks around a text open and close nothing. -/
theorem IsPadded.isPiece_iff {padded : List Char} (h : IsPadded cs padded) :
    IsPiece .outside padded ↔ IsPiece .outside cs := by
  obtain ⟨before, after, hbefore, hafter, rfl⟩ := h
  rw [isPiece_append_gap Standing.isProper_outside hafter,
    isPiece_gap_append Standing.isProper_outside hbefore]

/-- Blanks around a text are all that trimming drops, if it has none at its ends. -/
theorem IsPadded.trim_eq {padded : List Char} (h : IsPadded cs padded) (hcs : trim cs = cs) :
    trim padded = cs := by
  obtain ⟨before, after, hbefore, hafter, rfl⟩ := h
  by_cases hne : cs = []
  · subst hne
    rw [List.append_nil, Text.trim_eq_nil_iff]
    intro c hc
    exact (List.mem_append.mp hc).elim (hbefore c) (hafter c)
  · have hstart : StartsFull cs := hcs ▸ Text.startsFull_trim cs
    have hend : StartsFull cs.reverse := hcs ▸ Text.endsFull_trim cs
    exact Text.trim_padded hbefore hafter hne hstart hend

/-! ### Rows of arguments -/

/-- A row of pieces is a row of what is left of them without the blanks around them. -/
theorem isRow_map_trim (pieces : List (List Char)) :
    IsRow (pieces.map trim) ([','].intercalate pieces) :=
  ⟨pieces, List.forall₂_map_left_iff.mpr (List.forall₂_same.mpr fun p _ => Text.exists_gaps p), rfl⟩

/-- The texts of a row are what is left of its pieces, if they are pieces without blanks at their
    ends. -/
theorem exists_pieces_of_isRow {texts : List (List Char)} (hrow : IsRow texts cs)
    (htexts : ∀ t ∈ texts, trim t = t ∧ IsPiece .outside t) :
    ∃ pieces, pieces.map trim = texts ∧ cs = [','].intercalate pieces
      ∧ ∀ piece ∈ pieces, IsPiece .outside piece := by
  obtain ⟨pieces, hpadded, hcs⟩ := hrow
  suffices h : pieces.map trim = texts ∧ ∀ piece ∈ pieces, IsPiece .outside piece from
    ⟨pieces, h.1, hcs, h.2⟩
  clear hcs
  induction hpadded with
  | nil => exact ⟨rfl, List.forall_mem_nil _⟩
  | cons hfirst _ ih =>
    obtain ⟨⟨htrim, hpiece⟩, hrest⟩ := List.forall_mem_cons.mp htexts
    obtain ⟨hmap, hpieces⟩ := ih hrest
    exact ⟨by rw [List.map_cons, hfirst.trim_eq htrim, hmap],
      List.forall_mem_cons.mpr ⟨hfirst.isPiece_iff.mpr hpiece, hpieces⟩⟩

/-! ### Arguments -/

/-- Only an empty text at the end is dropped. -/
theorem dropEmptyLast_cases (found : List (List Char)) :
    found = dropEmptyLast found ∨ found = dropEmptyLast found ++ [[]] := by
  fun_induction dropEmptyLast found with
  | case1 => exact .inl rfl
  | case2 piece hempty => exact .inr (by simpa using hempty)
  | case3 => exact .inl rfl
  | case4 piece rest _ ih => exact ih.imp (congrArg (piece :: ·)) (congrArg (piece :: ·))

/-- An empty piece at the end is dropped. -/
theorem dropEmptyLast_concat_nil {texts : List (List Char)} (h : ∀ t ∈ texts, t ≠ []) :
    dropEmptyLast (texts ++ [[]]) = texts := by
  induction texts with
  | nil => rfl
  | cons t texts ih =>
    have hrest := ih fun u hu => h u (List.mem_cons_of_mem t hu)
    cases texts with
    | nil => rfl
    | cons u texts => exact congrArg (t :: ·) hrest

/-- A text is a row of pieces if it is joined of them and each of them is one. -/
theorem arePieces_outside_iff {pieces : List (List Char)} :
    ArePieces .outside cs pieces ↔ pieces ≠ [] ∧ cs = [','].intercalate pieces
      ∧ ∀ piece ∈ pieces, IsPiece .outside piece := by
  cases pieces <;> simp [ArePieces]

/-- The pieces of a text are its arguments, once blanks and an empty text at the end are dropped. -/
theorem split_eq_ok {texts : List (List Char)} :
    split cs = .ok texts ↔ ∃ pieces, ArePieces .outside cs pieces
      ∧ dropEmptyLast (pieces.map trim) = texts ∧ ∀ t ∈ texts, t ≠ [] := by
  -- The pieces of the splitter are those that have been told, and the rest is trimming.
  have hpieces (pieces : List (List Char)) :
      piecesFrom 0 none [] cs = .ok pieces ↔ ArePieces .outside cs pieces := by
    rw [show piecesFrom 0 none [] cs
        = piecesFrom Standing.outside.depth.toNat Standing.outside.quote [] cs from rfl,
      piecesFrom_eq_ok_iff (Int.le_refl _)]
    cases pieces <;> simp [ArePieces]
  rw [split]
  cases hread : piecesFrom 0 none [] cs with
  | error e => simp [← hpieces, hread]
  | ok pieces =>
    simp only [← hpieces, hread, Except.ok.injEq, exists_eq_left']
    split
    case isTrue hempty =>
      refine iff_of_false (by simp) ?_
      rintro ⟨rfl, hne⟩
      obtain ⟨t, ht, hnil⟩ := List.any_eq_true.mp hempty
      exact hne t ht (List.isEmpty_iff.mp hnil)
    case isFalse hfull =>
      rw [Except.ok.injEq, iff_self_and]
      rintro rfl t ht rfl
      exact hfull (List.any_eq_true.mpr ⟨[], ht, rfl⟩)

/-- A row of texts is split into them, once an empty one at the end is dropped. -/
theorem split_of_isRow {found texts : List (List Char)}
    (hfound : ∀ t ∈ found, trim t = t ∧ IsPiece .outside t) (hnil : found ≠ [])
    (hrow : IsRow found cs) (hdrop : dropEmptyLast found = texts) (hne : ∀ t ∈ texts, t ≠ []) :
    split cs = .ok texts := by
  obtain ⟨pieces, rfl, hcs, hall⟩ := exists_pieces_of_isRow hrow hfound
  have hpieces : pieces ≠ [] := by simpa using hnil
  exact split_eq_ok.mpr ⟨pieces, arePieces_outside_iff.mpr ⟨hpieces, hcs, hall⟩, hdrop, hne⟩

/-- **Arguments.** A text is split into arguments exactly if each of them is whole and the text is a
    row of them, behind which there may be one more comma; blanks may stand around every one. -/
theorem split_eq_ok_iff {cs : List Char} {texts : List (List Char)} :
    split cs = .ok texts
      ↔ (∀ t ∈ texts, IsWhole t) ∧ (IsRow texts cs ∨ IsRow (texts ++ [[]]) cs) := by
  constructor
  · intro h
    obtain ⟨pieces, hpieces, hdrop, hne⟩ := split_eq_ok.mp h
    obtain ⟨-, rfl, hall⟩ := arePieces_outside_iff.mp hpieces
    have hfound : pieces.map trim = texts ∨ pieces.map trim = texts ++ [[]] :=
      hdrop ▸ dropEmptyLast_cases _
    have hrow {found : List (List Char)} (h : pieces.map trim = found) :
        IsRow found ([','].intercalate pieces) := h ▸ isRow_map_trim pieces
    refine ⟨fun t ht => ?_, hfound.imp hrow hrow⟩
    have hmem : t ∈ pieces.map trim := by
      rcases hfound with h | h <;> rw [h]
      · exact ht
      · exact List.mem_append_left _ ht
    obtain ⟨piece, hpiece, rfl⟩ := List.mem_map.mp hmem
    exact ⟨hne _ ht, Text.trim_trim piece,
      (IsPadded.isPiece_iff (Text.exists_gaps piece)).mp (hall piece hpiece)⟩
  · rintro ⟨hwhole, hrow⟩
    have hne : ∀ t ∈ texts, t ≠ [] := fun t ht => (hwhole t ht).nonempty
    have htexts : ∀ t ∈ texts, trim t = t ∧ IsPiece .outside t := fun t ht =>
      ⟨(hwhole t ht).trimmed, (hwhole t ht).piece⟩
    rcases hrow with hrow | hrow
    · by_cases hnil : texts = []
      · -- Without any texts there is nothing, which is read as one text that is empty.
        subst hnil
        obtain ⟨_, ⟨⟩, rfl⟩ := hrow
        rfl
      · exact split_of_isRow htexts hnil hrow (dropEmptyLast_of_nonempty hne) hne
    · have hlast : trim [] = [] ∧ IsPiece .outside [] := ⟨rfl, isPiece_nil.mpr rfl⟩
      exact split_of_isRow (List.forall_mem_append.mpr ⟨htexts, by simpa using hlast⟩) (by simp)
        hrow (dropEmptyLast_concat_nil hne) hne

example : split " Tuple[int, str] ,int, ".toList
    = .ok ["Tuple[int, str]".toList, "int".toList] := by
  decide

end Questionnaire.ValueType
