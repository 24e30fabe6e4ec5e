import Questionnaire.Expression.Tree
import Questionnaire.Proofs.Except

namespace Questionnaire.Expression

/-!
# Levels

While tokens become a tree, some parentheses are open.  How the stack of open trees changes depends
only on what has separated the items at each of these *levels*: nothing so far, commas, or
semicolons.  A semicolon behind commas is the odd case: no tree at that level has room for it, and
every level is given up down to the nearest one with a semicolon.

* `Level.run` — the open levels behind a row of signs.
* `Stands` — a stack of open trees has these levels.
* `Stands.step`, `Stands.run` — what one token and a row of tokens do to the levels.
* `levels_of_tree` — behind the tokens of a tree, only the outermost level is open.
-/

/-- What has separated the items of an open parenthesis, or of the expression as a whole. -/
inductive Level where
  | fresh
  | listed
  | chained
deriving DecidableEq

/-- A token that changes the open levels. -/
inductive Sign where
  | opening (level : Level)
  | closing
  | comma
  | semicolon
deriving DecidableEq

/-- Gives up levels, the innermost first, down to the nearest one with a semicolon. -/
def discard : List Level → Option (List Level)
  | [] => none
  | .chained :: rest => some (.chained :: rest)
  | _ :: rest => discard rest

/-- The open levels behind a sign, the innermost first.  The outermost one is never closed. -/
def Sign.step (levels : List Level) : Sign → Option (List Level)
  | .opening level => some (level :: levels)
  | .closing => match levels with
    | _ :: below :: rest => some (below :: rest)
    | _ => none
  | .comma => match levels with
    | .fresh :: rest => some (.listed :: rest)
    | _ => some levels
  | .semicolon => match levels with
    | .fresh :: rest => some (.chained :: rest)
    | _ => discard levels

/-- The open levels behind a row of signs. -/
def Level.run (levels : List Level) (signs : List Sign) : Option (List Level) :=
  signs.foldlM Sign.step levels

/-- Discarding levels leaves at least one, and not more than there were. -/
theorem discard_length {levels levels' : List Level} (h : discard levels = some levels') :
    levels' ≠ [] ∧ levels'.length ≤ levels.length := by
  induction levels with
  | nil => cases h
  | cons level rest ih =>
    cases level with
    | chained =>
      cases h
      exact ⟨List.cons_ne_nil _ _, Nat.le_refl _⟩
    | fresh | listed => exact (ih h).imp_right Nat.le_succ_of_le

/-- A sign leaves the outermost level open. -/
theorem Sign.step_ne_nil {levels levels' : List Level} {sign : Sign}
    (h : sign.step levels = some levels') (hne : levels ≠ []) : levels' ≠ [] := by
  obtain ⟨top, rest, rfl⟩ := List.exists_cons_of_ne_nil hne
  -- Only a closing bracket removes a level, and it needs one below.
  cases sign with
  | opening level =>
    cases h
    exact List.cons_ne_nil _ _
  | closing =>
    cases rest with
    | nil => cases h
    | cons below rest =>
      cases h
      exact List.cons_ne_nil _ _
  | comma =>
    cases top <;>
    · cases h
      exact List.cons_ne_nil _ _
  | semicolon =>
    cases top with
    | fresh =>
      cases h
      exact List.cons_ne_nil _ _
    | listed | chained => exact (discard_length h).1

/-- Signs are followed one after the other. -/
theorem Level.run_append (levels : List Level) (front back : List Sign) :
    Level.run levels (front ++ back) = (Level.run levels front).bind (Level.run · back) :=
  List.foldlM_append ..

/-! ### Signs -/

/-- The sign that a token is. -/
def Token.sign? : Token → Option Sign
  | .opening => some (.opening .fresh)
  | .closing => some .closing
  | .comma => some .comma
  | .semicolon => some .semicolon
  | _ => none

/-- Tokens that change no level put no sequence on the stack. -/
theorem operatorOf_isSequence {token : Token} (h : token.sign? = none) (afterValue : Bool)
    (next : Option Token) :
    (Builder.operatorOf afterValue next token).isSequence = false := by
  cases token with
  | name s =>
    rw [Builder.operatorOf]
    repeat' split
    all_goals rfl
  | minus => cases afterValue <;> rfl
  | _ => first | rfl | cases h

/-! ### Stacks -/

/-- The operators of the open trees of a level, the innermost first. -/
inductive Level.Row : Level → List Operator → Prop where
  | fresh : Row .fresh [.root]
  | listed : Row .listed [.tuple, .root]
  | chained : Row .chained [.chain, .root]
  | again {ops : List Operator} :
    Row .chained (.chain :: ops) → Row .chained (.chain :: .chain :: ops)
  | item {ops : List Operator} :
    Row .chained (.chain :: ops) → Row .chained (.tuple :: .chain :: ops)

/-- The operators of the open trees of a row of levels. -/
inductive Stands : List Level → List Operator → Prop where
  | nil : Stands [] []
  | cons {level : Level} {levels : List Level} {row ops : List Operator} :
    level.Row row → Stands levels ops → Stands (level :: levels) (row ++ ops)

/-- The trees of a level are sequences on top of a root. -/
theorem Level.Row.exists_sequences {level : Level} {row : List Operator} (h : level.Row row) :
    ∃ sequences, row = sequences ++ [.root] ∧ ∀ op ∈ sequences, op.isSequence = true := by
  induction h with
  | fresh => exact ⟨[], rfl, by simp⟩
  | listed => exact ⟨[.tuple], rfl, by simp [Operator.isSequence, Operator.capacity]⟩
  | chained => exact ⟨[.chain], rfl, by simp [Operator.isSequence, Operator.capacity]⟩
  | again _ ih =>
    obtain ⟨sequences, hrow, hall⟩ := ih
    exact ⟨.chain :: sequences, by rw [hrow]; rfl, List.forall_mem_cons.mpr ⟨rfl, hall⟩⟩
  | item _ ih =>
    obtain ⟨sequences, hrow, hall⟩ := ih
    exact ⟨.tuple :: sequences, by rw [hrow]; rfl, List.forall_mem_cons.mpr ⟨rfl, hall⟩⟩

/-- There are no open levels exactly if there are no open trees. -/
theorem Stands.nil_iff {levels : List Level} {ops : List Operator} (h : Stands levels ops) :
    levels = [] ↔ ops = [] := by
  cases h with
  | nil => simp
  | cons hrow _ =>
    obtain ⟨sequences, rfl, -⟩ := hrow.exists_sequences
    simp

/-! ### Trees keep their operator -/

/-- A further operand leaves the operator at the top. -/
@[simp] theorem Tree.op_push (t child : Tree) : (t.push child).op = t.op := by
  cases t <;> rfl

/-- Inserting a tree leaves the operator at the top. -/
theorem Tree.op_insert {t new t' : Tree} {direct : Bool} (h : t.insert new direct = .ok t') :
    t'.op = t.op := by
  -- Inserting goes down the latest operand and never replaces the root.
  cases t with
  | bare op =>
    rw [Tree.insert] at h
    split at h
    · cases h
    · split at h
      · cases h
      · cases h
        rfl
  | «over» op earlier latest =>
    rw [Tree.insert] at h
    split at h
    · cases h
    · split at h
      · cases h
      · split at h
        · split at h
          · obtain ⟨latest', -, rfl⟩ := Except.map_eq_ok.mp h
            rfl
          · rw [Tree.rotate] at h
            split at h
            · cases h
            · split at h
              · cases h
              · cases h
                rfl
        · cases h
          rfl

/-- A tree that is no sequence goes into the tree on top of the stack. -/
theorem map_op_put {new : Tree} (hnew : new.op.isSequence = false) {stack stack' : List Tree}
    (h : Builder.put new stack = .ok stack') : stack'.map Tree.op = stack.map Tree.op := by
  cases stack with
  | nil => cases h
  | cons top rest =>
    rw [Builder.put.eq_def] at h
    dsimp only at h
    rw [if_neg (by simp [hnew])] at h
    split at h
    · cases top with
      | bare op => cases h
      | «over» op earlier latest =>
        obtain ⟨latest', -, hstack⟩ := Except.bind_eq_ok.mp h
        cases hstack
        rfl
    · obtain ⟨top', htop, rfl⟩ := Except.map_eq_ok.mp h
      rw [List.map_cons, List.map_cons, Tree.op_insert htop]

/-! ### Closing -/

/-- The sequences of a level are closed into its root. -/
theorem map_op_closeSequences {sequences more : List Operator}
    (hsequences : ∀ op ∈ sequences, op.isSequence = true) {top : Tree} {rest stack : List Tree}
    (hops : (top :: rest).map Tree.op = sequences ++ .root :: more)
    (h : Builder.closeSequences top rest = .ok stack) : stack.map Tree.op = .root :: more := by
  induction sequences generalizing top rest with
  | nil =>
    obtain ⟨htop, hrest⟩ := List.cons.inj hops
    have hroot : top.op.isRoot = true := by rw [htop]; rfl
    -- A root is not closed, only counted.
    have hstack : stack = top :: rest := by
      cases rest with
      | nil =>
        rw [Builder.closeSequences, if_pos hroot] at h
        split at h
        · cases h
        · exact (Except.ok.inj h).symm
      | cons below rest =>
        rw [Builder.closeSequences, if_pos (by simp [hroot])] at h
        split at h
        · cases h
        · exact (Except.ok.inj h).symm
    rw [hstack, List.map_cons, htop, hrest]
  | cons op sequences ih =>
    obtain ⟨htop, hrest⟩ := List.cons.inj hops
    obtain ⟨hop, hsequences⟩ := List.forall_mem_cons.mp hsequences
    cases rest with
    | nil => simp at hrest
    | cons below rest =>
      have hroot : op.isRoot = false := by
        cases op <;> first | rfl | cases hop
      rw [Builder.closeSequences, if_neg (by simp [hroot, htop, hop])] at h
      refine ih hsequences ?_ h
      rw [List.map_cons, Tree.op_push]
      exact hrest

/-- Closing a level leaves its root, on top of the levels below. -/
theorem Stands.close {level : Level} {levels : List Level} {stack stack' : List Tree}
    (hstands : Stands (level :: levels) (stack.map Tree.op))
    (h : Builder.close stack = .ok stack') :
    ∃ ops, stack'.map Tree.op = .root :: ops ∧ Stands levels ops := by
  generalize hops : stack.map Tree.op = all at hstands
  cases hstands with
  | cons hrow hbelow =>
    rename_i row ops
    obtain ⟨sequences, rfl, hsequences⟩ := hrow.exists_sequences
    cases stack with
    | nil => cases h
    | cons top rest =>
      refine ⟨ops, map_op_closeSequences hsequences ?_ h, hbelow⟩
      rw [hops, List.append_assoc, List.singleton_append]

/-! ### Separators -/

/-- A sequence goes onto the stack as one. -/
theorem put_sequence {op : Operator} (hop : op.isSequence = true) (top : Tree) (rest : List Tree) :
    Builder.put (.bare op) (top :: rest) = Builder.putSequence op top rest := by
  rw [Builder.put.eq_def]
  exact if_pos hop

/-- The first sequence of a level stands on top of its root. -/
theorem map_op_putSequence_root {op : Operator} {top : Tree} {rest stack : List Tree}
    (htop : top.op = .root) (h : Builder.putSequence op top rest = .ok stack) :
    stack.map Tree.op = op :: .root :: rest.map Tree.op := by
  rw [Builder.putSequence.eq_def, if_neg (by simp [htop, Operator.sameSequence]),
    if_pos (by rw [htop]; rfl)] at h
  cases h
  rfl

/-- A sequence goes on with its own separator. -/
theorem map_op_putSequence_same {op : Operator} {top : Tree} {rest stack : List Tree}
    (htop : top.op.sameSequence op = true) (h : Builder.putSequence op top rest = .ok stack) :
    stack.map Tree.op = top.op :: rest.map Tree.op := by
  rw [Builder.putSequence.eq_def, if_pos htop] at h
  cases h
  rw [List.map_cons, Tree.op_push]

/-- A comma behind a semicolon begins a sequence inside the other one. -/
theorem map_op_putSequence_item {top : Tree} {rest stack : List Tree} (htop : top.op = .chain)
    (h : Builder.putSequence .tuple top rest = .ok stack) :
    stack.map Tree.op = .tuple :: .chain :: rest.map Tree.op := by
  rw [Builder.putSequence.eq_def, if_neg (by simp [htop, Operator.sameSequence]),
    if_neg (by simp [htop, Operator.isRoot])] at h
  cases top with
  | bare op => cases h
  | «over» op earlier latest =>
    obtain rfl : op = .chain := htop
    dsimp only at h
    rw [if_pos (by decide)] at h
    cases h
    cases earlier <;> rfl

/-- The operators above the nearest semicolon. -/
def bindsTighter (op : Operator) : Bool := Operator.chain.precedence < op.precedence

/-- A semicolon closes trees from the top on, as long as they bind tighter than it does. -/
theorem map_op_closeAbove {top closed : Tree} {rest rest' : List Tree}
    (h : Builder.closeAbove .chain top rest = .ok (closed, rest')) :
    rest' ≠ [] ∧ rest'.map Tree.op = (rest.map Tree.op).dropWhile bindsTighter := by
  induction rest generalizing top with
  | nil => cases h
  | cons below rest ih =>
    rw [Builder.closeAbove] at h
    split at h
    · rename_i htighter
      have hbelow : bindsTighter below.op = true := decide_eq_true htighter
      rw [List.map_cons, List.dropWhile_cons_of_pos hbelow]
      exact ih h
    · rename_i htighter
      cases h
      rw [List.map_cons, List.dropWhile_cons_of_neg (by simpa [bindsTighter] using htighter)]
      exact ⟨List.cons_ne_nil _ _, rfl⟩

/-- A semicolon behind a comma goes to the nearest open semicolon. -/
theorem map_op_putSequence_chain {top : Tree} {rest stack : List Tree} (htop : top.op = .tuple)
    (h : Builder.putSequence .chain top rest = .ok stack) :
    (rest.map Tree.op).dropWhile bindsTighter ≠ []
    ∧ stack.map Tree.op = .chain :: (rest.map Tree.op).dropWhile bindsTighter := by
  rw [Builder.putSequence.eq_def, if_neg (by simp [htop, Operator.sameSequence]),
    if_neg (by simp [htop, Operator.isRoot])] at h
  cases top with
  | bare op => cases h
  | «over» op earlier latest =>
    obtain rfl : op = .tuple := htop
    dsimp only at h
    rw [if_neg (by decide)] at h
    obtain ⟨⟨closed, below⟩, hclosed, hstack⟩ := Except.bind_eq_ok.mp h
    cases hstack
    obtain ⟨hne, hbelow⟩ := map_op_closeAbove hclosed
    rw [← hbelow]
    exact ⟨by simpa using hne, rfl⟩

/-- Where a semicolon is open, levels are given up down to it, and it goes on. -/
theorem Stands.discard {levels : List Level} {ops : List Operator} (h : Stands levels ops)
    (hne : ops.dropWhile bindsTighter ≠ []) :
    ∃ levels', Expression.discard levels = some levels'
      ∧ Stands levels' (.chain :: ops.dropWhile bindsTighter) := by
  induction h with
  | nil => exact absurd rfl hne
  | cons hrow hbelow ih =>
    cases hrow with
    | fresh => exact ih hne
    | listed => exact ih hne
    | chained => exact ⟨_, rfl, .cons (.again .chained) hbelow⟩
    | again hrow => exact ⟨_, rfl, .cons (.again (.again hrow)) hbelow⟩
    | item hrow => exact ⟨_, rfl, .cons (.again hrow) hbelow⟩

/-! ### Tokens -/

/-- A comma opens a tuple, or goes on with one. -/
theorem Stands.comma {levels : List Level} {stack stack' : List Tree}
    (hstands : Stands levels (stack.map Tree.op))
    (h : Builder.put (.bare .tuple) stack = .ok stack') :
    ∃ levels', Sign.comma.step levels = some levels' ∧ Stands levels' (stack'.map Tree.op) := by
  cases stack with
  | nil => cases h
  | cons top rest =>
    rw [put_sequence rfl] at h
    generalize hops : (top :: rest).map Tree.op = ops at hstands
    cases hstands with
    | nil => cases hops
    | cons hrow hbelow =>
      -- The tree on top belongs to the innermost level.
      cases hrow with
      | fresh =>
        obtain ⟨htop, hrest⟩ := List.cons.inj hops
        rw [map_op_putSequence_root htop h, hrest]
        exact ⟨_, rfl, .cons .listed hbelow⟩
      | listed =>
        obtain ⟨htop, hrest⟩ := List.cons.inj hops
        rw [map_op_putSequence_same (by rw [htop]; rfl) h, htop, hrest]
        exact ⟨_, rfl, .cons .listed hbelow⟩
      | chained =>
        obtain ⟨htop, hrest⟩ := List.cons.inj hops
        rw [map_op_putSequence_item htop h, hrest]
        exact ⟨_, rfl, .cons (.item .chained) hbelow⟩
      | again hrow =>
        obtain ⟨htop, hrest⟩ := List.cons.inj hops
        rw [map_op_putSequence_item htop h, hrest]
        exact ⟨_, rfl, .cons (.item (.again hrow)) hbelow⟩
      | item hrow =>
        obtain ⟨htop, hrest⟩ := List.cons.inj hops
        rw [map_op_putSequence_same (by rw [htop]; rfl) h, htop, hrest]
        exact ⟨_, rfl, .cons (.item hrow) hbelow⟩

/-- A semicolon does the same for a chain, behind which tuples are closed. -/
theorem Stands.semicolon {levels : List Level} {stack stack' : List Tree}
    (hstands : Stands levels (stack.map Tree.op))
    (h : Builder.put (.bare .chain) stack = .ok stack') :
    ∃ levels', Sign.semicolon.step levels = some levels'
      ∧ Stands levels' (stack'.map Tree.op) := by
  cases stack with
  | nil => cases h
  | cons top rest =>
    rw [put_sequence rfl] at h
    -- Behind a comma the whole stack counts, and its top is not the semicolon that is looked for.
    have hdiscard (htop : top.op = .tuple) :
        ∃ levels', Expression.discard levels = some levels'
          ∧ Stands levels' (stack'.map Tree.op) := by
      obtain ⟨hne, hstack⟩ := map_op_putSequence_chain htop h
      have htighter : bindsTighter top.op = true := by rw [htop]; rfl
      have hdrop := List.dropWhile_cons_of_pos htighter (l := rest.map Tree.op)
      rw [← hdrop] at hne hstack
      rw [hstack]
      exact hstands.discard hne
    generalize hops : (top :: rest).map Tree.op = ops at hstands
    cases hstands with
    | nil => cases hops
    | cons hrow hbelow =>
      cases hrow with
      | fresh =>
        obtain ⟨htop, hrest⟩ := List.cons.inj hops
        rw [map_op_putSequence_root htop h, hrest]
        exact ⟨_, rfl, .cons .chained hbelow⟩
      | listed => exact hdiscard (List.cons.inj hops).1
      | chained =>
        obtain ⟨htop, hrest⟩ := List.cons.inj hops
        rw [map_op_putSequence_same (by rw [htop]; rfl) h, htop, hrest]
        exact ⟨_, rfl, .cons .chained hbelow⟩
      | again hrow =>
        obtain ⟨htop, hrest⟩ := List.cons.inj hops
        rw [map_op_putSequence_same (by rw [htop]; rfl) h, htop, hrest]
        exact ⟨_, rfl, .cons (.again hrow) hbelow⟩
      | item hrow => exact hdiscard (List.cons.inj hops).1

/-- A bracket that closes discards what has been opened behind the one it belongs to. -/
theorem Stands.closing {levels : List Level} {stack : List Tree}
    (hstands : Stands levels (stack.map Tree.op)) {closed : Tree} {rest stack' : List Tree}
    (hclose : Builder.close stack = .ok (closed :: rest))
    (hput : Builder.put closed rest = .ok stack') :
    ∃ levels', Sign.closing.step levels = some levels' ∧ Stands levels' (stack'.map Tree.op) := by
  cases levels with
  | nil =>
    rw [List.map_eq_nil_iff.mp (hstands.nil_iff.mp rfl)] at hclose
    cases hclose
  | cons level levels =>
    obtain ⟨ops, hops, hbelow⟩ := hstands.close hclose
    obtain ⟨hroot, rfl⟩ := List.cons.inj hops
    have hstack := map_op_put (by rw [hroot]; rfl) hput
    cases levels with
    | nil =>
      -- Nothing is below the outermost level that the closed tree could go into.
      rw [List.map_eq_nil_iff.mp (hbelow.nil_iff.mp rfl)] at hput
      cases hput
    | cons below levels => exact ⟨_, rfl, hstack ▸ hbelow⟩

/-- A single sign is one step. -/
theorem Level.run_singleton (levels : List Level) (sign : Sign) :
    Level.run levels [sign] = sign.step levels := by
  simp [Level.run]

/-- What a token does to the stack. -/
theorem step_cases {b b' : Builder} {token : Token} {next : Option Token}
    (h : b.step token next = .ok b') :
    (token = .opening ∧ b'.stack = .bare .root :: b.stack)
    ∨ (token = .closing ∧ ∃ closed rest, Builder.close b.stack = .ok (closed :: rest)
      ∧ Builder.put closed rest = .ok b'.stack)
    ∨ (token ≠ .opening ∧ token ≠ .closing
      ∧ Builder.put (.bare (Builder.operatorOf b.afterValue next token)) b.stack
        = .ok b'.stack) := by
  have hend {x : Except Failure (List Tree)}
      (hx : (do .ok (Builder.mk (← x) token.endsValue)) = Except.ok b') : x = .ok b'.stack := by
    obtain ⟨stack, hstack, hb⟩ := Except.bind_eq_ok.mp hx
    cases hb
    exact hstack
  unfold Builder.step at h
  dsimp only at h
  split at h
  · exact Or.inl ⟨rfl, (Except.ok.inj (hend h)).symm⟩
  · split at h
    · cases h
    · obtain ⟨closed, hclosed, hput⟩ := Except.bind_eq_ok.mp h
      cases closed with
      | nil => cases hput
      | cons top rest => exact Or.inr (Or.inl ⟨rfl, top, rest, hclosed, hend hput⟩)
  · rename_i hopening hclosing
    exact Or.inr (Or.inr ⟨hopening, hclosing, hend h⟩)

/-- **One token.** A token changes the open levels as its sign says. -/
theorem Stands.step {levels : List Level} {b b' : Builder}
    (hstands : Stands levels (b.stack.map Tree.op)) {token : Token} {next : Option Token}
    (h : b.step token next = .ok b') :
    ∃ levels', Level.run levels token.sign?.toList = some levels'
      ∧ Stands levels' (b'.stack.map Tree.op) := by
  -- A bracket changes the depth of the stack, and a separator only the level on top.
  obtain ⟨rfl, hstack⟩ | ⟨rfl, closed, rest, hclose, hput⟩ | ⟨hopening, hclosing, hput⟩ :=
    step_cases h
  · rw [hstack]
    exact ⟨_, rfl, .cons .fresh hstands⟩
  · rw [Token.sign?, Option.toList_some, Level.run_singleton]
    exact hstands.closing hclose hput
  · cases hsign : token.sign? with
    | none =>
      have hnew : (Tree.bare (Builder.operatorOf b.afterValue next token)).op.isSequence = false :=
        operatorOf_isSequence hsign b.afterValue next
      exact ⟨levels, rfl, map_op_put hnew hput ▸ hstands⟩
    | some sign =>
      rw [Option.toList_some, Level.run_singleton]
      cases token with
      | comma =>
        cases hsign
        exact hstands.comma hput
      | semicolon =>
        cases hsign
        exact hstands.semicolon hput
      | opening => exact absurd rfl hopening
      | closing => exact absurd rfl hclosing
      | _ => cases hsign

/-- **A row of tokens.** It changes the open levels as its signs say. -/
theorem Stands.run {levels : List Level} {b b' : Builder}
    (hstands : Stands levels (b.stack.map Tree.op)) {ts : List Token} (h : b.run ts = .ok b') :
    ∃ levels', Level.run levels (ts.filterMap Token.sign?) = some levels'
      ∧ Stands levels' (b'.stack.map Tree.op) := by
  rw [List.filterMap_eq_flatMap_toList]
  induction ts generalizing b levels with
  | nil =>
    cases h
    exact ⟨levels, rfl, hstands⟩
  | cons token ts ih =>
    obtain ⟨between, hstep, hrest⟩ := Except.bind_eq_ok.mp h
    obtain ⟨levels₁, hfirst, hbetween⟩ := hstands.step hstep
    obtain ⟨levels₂, hlast, hend⟩ := ih hbetween hrest
    refine ⟨levels₂, ?_, hend⟩
    rw [List.flatMap_cons, Level.run_append, hfirst]
    exact hlast

/-- **Levels of a tree.** Behind the tokens of a tree only one level is open. -/
theorem levels_of_tree {ts : List Token} {t : Tree} (h : tree ts = .ok t) :
    ∃ level, Level.run [.fresh] (ts.filterMap Token.sign?) = some [level] := by
  obtain ⟨b, hrun, h⟩ := Except.bind_eq_ok.mp h
  obtain ⟨stack, hclose, hstack⟩ := Except.bind_eq_ok.mp h
  have hstart : Stands [.fresh] (Builder.start.stack.map Tree.op) := .cons .fresh .nil
  obtain ⟨levels, hlevels, hstands⟩ := hstart.run hrun
  cases levels with
  | nil =>
    rw [List.map_eq_nil_iff.mp (hstands.nil_iff.mp rfl)] at hclose
    cases hclose
  | cons level levels =>
    obtain ⟨ops, hops, hbelow⟩ := hstands.close hclose
    -- A second level would leave a second tree.
    cases stack with
    | nil => cases hops
    | cons top rest =>
      cases rest with
      | cons => cases hstack
      | nil =>
        obtain ⟨-, hnone⟩ := List.cons.inj hops
        obtain rfl : levels = [] := hbelow.nil_iff.mpr hnone.symm
        exact ⟨level, hlevels⟩

end Questionnaire.Expression
