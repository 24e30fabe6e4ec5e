import Mathlib.Data.List.Forall2
import Questionnaire.Expression.Evaluate
import Questionnaire.Proofs.Expression.Token

namespace Questionnaire.Expression

/-!
# Tokens that build a value

The tree on top of the stack has one open place, its *hole*: the operand of a parenthesis, or the
next item of a row.  The tokens of a value fill the hole, whatever is below it on the stack and
whatever tokens come after them.

* `Builds` — tokens that fill every hole with a tree of a given value.
* `Builds.none`, `Builds.constant`, `Builds.negated`, `Builds.list`, `Builds.tuple` — the tokens
  of each kind of literal.
* `Builds.evaluate` — a text of such tokens has the value.
-/

/-- The operator of a tree without operands is that operator. -/
@[simp] theorem Tree.op_bare (op : Operator) : (Tree.bare op).op = op := rfl

/-- The operator of a tree with operands is the one at its top. -/
@[simp] theorem Tree.op_over (op : Operator) (earlier : List Tree) (latest : Tree) :
    (Tree.over op earlier latest).op = op := rfl

/-! ### Holes -/

/-- The place of the next operand: in a parenthesis, or behind the earlier items of a row. -/
inductive Hole where
  | fresh
  | after (earlier : List Tree)

namespace Hole

/-- The tree whose next operand is missing. -/
def tree : Hole → Tree
  | fresh => .bare .root
  | after earlier => .over .tuple earlier (.bare .root)

/-- The tree with the operand in its place. -/
def fill : Hole → Tree → Tree
  | fresh, t => .over .root [] t
  | after earlier, t => .over .tuple earlier (.over .root [] t)

end Hole

/-- A tree goes into a hole. -/
theorem put_hole (hole : Hole) {new : Tree} (hnew : new.op.isSequence = false) (rest : List Tree) :
    Builder.put new (hole.tree :: rest) = .ok (hole.fill new :: rest) := by
  cases hole <;> simp only [Builder.put, hnew] <;> rfl

/-- A tree goes below an operator that waits for its operand. -/
theorem insert_below {op : Operator} {new : Tree} (hop : op.isLeaf = false)
    (hyields : op.yieldsTo new.op = true) :
    Tree.insert (.over .root [] (.bare op)) new true = .ok (.over .root [] (.over op [] new)) := by
  -- The operator has room, so the tree becomes its operand.
  have hbare : Tree.insert (.bare op) new false = .ok (.over op [] new) := by
    rw [Tree.insert, if_neg (by simp [hyields]), if_neg (by simp [hop])]
  rw [Tree.insert, if_neg (by simp), if_neg (by simp [Operator.isLeaf, Operator.capacity])]
  show (if _ then if op.yieldsTo new.op = true then _ else _ else _) = _
  rw [if_pos (by rfl), if_pos hyields, hbare]
  rfl

/-- A tree is put below an operator that yields to it, wherever this one stands. -/
theorem put_below (hole : Hole) (op : Operator) (new : Tree) (hnew : new.op.isSequence = false)
    (hop : op.isLeaf = false) (hyields : op.yieldsTo new.op = true) (rest : List Tree) :
    Builder.put new (hole.fill (.bare op) :: rest)
      = .ok (hole.fill (.over op [] new) :: rest) := by
  have hinsert := insert_below hop hyields
  cases hole with
  | fresh =>
    rw [Hole.fill, Builder.put, if_neg (by simp [hnew]),
      if_neg (by simp [Operator.isSequence, Operator.capacity]), hinsert]
    rfl
  | after earlier =>
    rw [Hole.fill, Builder.put, if_neg (by simp [hnew]), if_pos (by rfl)]
    simp only [hinsert]
    rfl

/-! ### Tokens of one value -/

/-- Tokens that fill the hole on top of the stack with a tree of value `v`. -/
def Builds (ts : List Token) (v : Value) : Prop :=
  ∃ t, evalTree t = .ok v ∧ ∀ (hole : Hole) (rest : List Tree) (more : List Token),
    Builder.run ⟨hole.tree :: rest, false⟩ (ts ++ more)
      = Builder.run ⟨hole.fill t :: rest, true⟩ more

/-- One token that puts a tree on the stack. -/
theorem run_put {b : Builder} {token : Token} {more : List Token} {stack : List Tree}
    (hparen : token ≠ .opening ∧ token ≠ .closing)
    (hput : Builder.put (.bare (Builder.operatorOf b.afterValue more.head? token)) b.stack
      = .ok stack) :
    b.run (token :: more) = Builder.run ⟨stack, token.endsValue⟩ more := by
  rw [Builder.run, Builder.step]
  · rw [hput]; rfl
  · exact hparen.1
  · exact hparen.2

/-- An opening bracket puts another root onto the stack. -/
theorem run_opening (stack : List Tree) (afterValue : Bool) (more : List Token) :
    Builder.run ⟨stack, afterValue⟩ (.opening :: more)
      = Builder.run ⟨.bare .root :: stack, false⟩ more := rfl

/-- A closing parenthesis puts the tree of the parenthesis into the tree below it. -/
theorem run_closing (afterValue : Bool) {stack stack' rest : List Tree} {top : Tree}
    (hlength : 1 < stack.length) (hclose : Builder.close stack = .ok (top :: rest))
    (hput : Builder.put top rest = .ok stack') (more : List Token) :
    Builder.run ⟨stack, afterValue⟩ (.closing :: more) = Builder.run ⟨stack', true⟩ more := by
  have hopen : ¬ stack.length ≤ 1 := by omega
  rw [Builder.run, Builder.step, if_neg hopen, hclose]
  show (Builder.put top rest >>= fun stack => .ok ⟨stack, true⟩) >>= (Builder.run · more) = _
  rw [hput]
  rfl

/-- The empty parentheses have the empty value. -/
theorem Builds.none : Builds [.opening, .closing] .none := by
  refine ⟨.bare .root, rfl, fun hole rest more => ?_⟩
  show Builder.run ⟨_, false⟩ (.opening :: .closing :: more) = _
  rw [run_opening]
  exact run_closing false (by simp) rfl (put_hole hole rfl rest) more

/-- A constant builds its value. -/
theorem Builds.constant (v : Value) : Builds [.constant v] v := by
  refine ⟨.bare (.constant v), rfl, fun hole rest more => ?_⟩
  exact run_put (by simp) (put_hole hole rfl rest)

/-- A minus sign in front of a constant is its negation. -/
theorem Builds.negated {v w : Value} (h : negation v = .ok w) :
    Builds [.minus, .constant v] w := by
  refine ⟨.over .negate [] (.bare (.constant v)), h, fun hole rest more => ?_⟩
  -- First the sign waits for its operand, then the number becomes that operand.
  have hsign : Builder.run ⟨hole.tree :: rest, false⟩ (.minus :: .constant v :: more)
      = Builder.run ⟨hole.fill (.bare .negate) :: rest, false⟩ (.constant v :: more) :=
    run_put (by simp) (put_hole hole rfl rest)
  have hnumber : Builder.run ⟨hole.fill (.bare .negate) :: rest, false⟩ (.constant v :: more)
      = Builder.run ⟨hole.fill (.over .negate [] (.bare (.constant v))) :: rest, true⟩ more :=
    run_put (by simp) (put_below hole _ _ rfl rfl rfl rest)
  exact hsign.trans hnumber

/-- A minus in front of an integer builds the negated one. -/
theorem Builds.negative {i k : Int64} (h : Number.int64OfInt? (-i.toInt) = some k) :
    Builds [.minus, .constant (.int i)] (.int k) :=
  .negated (by simp only [negation, h])

/-! ### Rows -/

/-- An operator applies to the values of its operands, the earlier ones first. -/
theorem evalTree_over {op : Operator} {earlier : List Tree} {latest : Tree} {vs : List Value}
    (h : evalEarlier (latest :: earlier) = .ok vs) :
    evalTree (.over op earlier latest) = apply op vs.reverse := by
  rw [evalEarlier] at h
  obtain ⟨before, hearlier, h⟩ := Except.bind_eq_ok.mp h
  obtain ⟨last, hlatest, h⟩ := Except.bind_eq_ok.mp h
  obtain rfl : last :: before = vs := Except.ok.inj h
  rw [evalTree, hearlier, hlatest]
  rfl

/-- A single tree is evaluated by itself. -/
theorem evalEarlier_single {t : Tree} {v : Value} (h : evalTree t = .ok v) :
    evalEarlier [t] = .ok [v] := by
  rw [evalEarlier, h]
  rfl

/-- Parentheses around a value have that value. -/
theorem evalTree_root {t : Tree} {v : Value} (h : evalTree t = .ok v) :
    evalTree (.over .root [] t) = .ok v := evalTree_over (evalEarlier_single h)

/-- The tokens of further items of a row, each after a comma. -/
def rowTokens (tss : List (List Token)) : List Token := tss.flatMap (.comma :: ·)

/-- Further items go behind the items of a row. -/
theorem run_row {tss : List (List Token)} {vs : List Value} (h : List.Forall₂ Builds tss vs)
    (earlier : List Tree) (latest : Tree) {us : List Value}
    (hus : evalEarlier (latest :: earlier) = .ok us) :
    ∃ earlier' latest', evalEarlier (latest' :: earlier') = .ok (vs.reverse ++ us) ∧
      ∀ (rest : List Tree) (more : List Token),
        Builder.run ⟨.over .tuple earlier latest :: rest, true⟩ (rowTokens tss ++ more)
          = Builder.run ⟨.over .tuple earlier' latest' :: rest, true⟩ more := by
  -- Every item makes the row longer, so the induction is for all rows.
  induction h generalizing earlier latest us with
  | nil => exact ⟨earlier, latest, hus, fun _ _ => rfl⟩
  | @cons ts v tss vs hts _ ih =>
    obtain ⟨t, heval, hrun⟩ := hts
    -- The item in its parenthesis comes behind those that are there.
    have hnext : evalEarlier (.over .root [] t :: latest :: earlier) = .ok (v :: us) := by
      rw [evalEarlier, hus, evalTree_root heval]
      rfl
    obtain ⟨earlier', latest', heval', hrun'⟩ := ih (latest :: earlier) (.over .root [] t) hnext
    refine ⟨earlier', latest', by simp [heval'], fun rest more => ?_⟩
    rw [rowTokens, List.flatMap_cons, ← rowTokens, List.cons_append, List.cons_append,
      List.append_assoc]
    -- The comma opens the hole behind the row, and the tokens of the item fill it.
    have hcomma : Builder.run ⟨.over .tuple earlier latest :: rest, true⟩
          (.comma :: (ts ++ (rowTokens tss ++ more)))
        = Builder.run ⟨(Hole.after (latest :: earlier)).tree :: rest, false⟩
          (ts ++ (rowTokens tss ++ more)) := run_put (by simp) rfl
    rw [hcomma, hrun, Hole.fill, hrun']

/-- The first comma behind an operand makes it the first item of a row. -/
theorem run_items {tss : List (List Token)} {vs : List Value} (h : List.Forall₂ Builds tss vs)
    (hne : tss ≠ []) {t : Tree} {u : Value} (ht : evalTree (.over .root [] t) = .ok u) :
    ∃ row, evalTree row = .ok (.seq (u :: vs)) ∧ row.op = .tuple ∧
      ∀ (rest : List Tree) (more : List Token),
        Builder.run ⟨.over .root [] t :: rest, true⟩ (rowTokens tss ++ more)
          = Builder.run ⟨row :: .bare .root :: rest, true⟩ more := by
  cases h with
  | nil => exact absurd rfl hne
  | @cons ts v tss vs hts htss =>
    obtain ⟨t', heval, hrun⟩ := hts
    -- The operand and the item behind the first comma are the first two items of a row.
    have hpair : evalEarlier [.over .root [] t', .over .root [] t] = .ok [v, u] := by
      rw [evalEarlier, evalEarlier_single ht, evalTree_root heval]
      rfl
    obtain ⟨earlier, latest, heval', hrun'⟩ := run_row htss _ _ hpair
    refine ⟨.over .tuple earlier latest, ?_, rfl, fun rest more => ?_⟩
    · rw [evalTree_over heval']
      simp [apply]
    · rw [rowTokens, List.flatMap_cons, ← rowTokens, List.cons_append, List.cons_append,
        List.append_assoc]
      have hcomma : Builder.run ⟨.over .root [] t :: rest, true⟩
            (.comma :: (ts ++ (rowTokens tss ++ more)))
          = Builder.run ⟨(Hole.after [.over .root [] t]).tree :: .bare .root :: rest, false⟩
            (ts ++ (rowTokens tss ++ more)) := run_put (by simp) rfl
      rw [hcomma, hrun, Hole.fill, hrun']

/-- Closing a parenthesis closes the row in it. -/
theorem close_row {row : Tree} (h : row.op = .tuple) (below : Tree) (rest : List Tree) :
    Builder.close (row :: .bare .root :: below :: rest)
      = .ok (.over .root [] row :: below :: rest) := by
  have hopen : ¬ (row.op.isRoot || !row.op.isSequence) = true := by
    rw [h]
    decide
  rw [Builder.close, Builder.closeSequences, if_neg hopen]
  rfl

/-! ### Tuples and lists -/

/-- Several items in parentheses are a tuple. -/
theorem Builds.tuple {ts : List Token} {tss : List (List Token)} {v : Value} {vs : List Value}
    (hfirst : Builds ts v) (hrest : List.Forall₂ Builds tss vs) (hne : tss ≠ []) :
    Builds (.opening :: ts ++ rowTokens tss ++ [.closing]) (.seq (v :: vs)) := by
  obtain ⟨t, heval, hrun⟩ := hfirst
  obtain ⟨row, hrow, hop, hitems⟩ := run_items hrest hne (evalTree_root heval)
  refine ⟨.over .root [] row, evalTree_root hrow, fun hole rest more => ?_⟩
  -- Inside the parenthesis the first item fills a fresh hole, and the others make a row of it.
  have hinside : Builder.run ⟨hole.tree :: rest, false⟩
        (.opening :: (ts ++ (rowTokens tss ++ (.closing :: more))))
      = Builder.run ⟨row :: .bare .root :: hole.tree :: rest, true⟩ (.closing :: more) := by
    rw [run_opening, show Tree.bare .root = Hole.fresh.tree from rfl, hrun, Hole.fill, hitems]
    rfl
  have hclosing := run_closing true (by simp) (close_row hop hole.tree rest)
    (put_hole hole rfl rest) more
  simpa using hinside.trans hclosing

/-- The call behind list brackets drops the marker in front of the items. -/
theorem evalTree_listOf {t : Tree} {v w : Value} (h : evalTree t = .ok v)
    (hlist : listOf v = .ok w) : evalTree (.over (.call "seq") [] t) = .ok w := by
  rw [evalTree_over (evalEarlier_single h)]
  exact hlist

/-- The items of a list stand in a call, behind a marker. -/
theorem Builds.list {tss : List (List Token)} {vs : List Value}
    (h : List.Forall₂ Builds tss vs) :
    Builds ([.name "seq", .opening, .opening, .closing] ++ rowTokens tss ++ [.closing])
      (.seq vs) := by
  have hmarker : evalTree (.over .root [] (.bare .root)) = .ok .none := rfl
  -- The name is a call that waits for its operand, and the empty parentheses are the first item.
  have hopened (hole : Hole) (rest : List Tree) (more : List Token) :
      Builder.run ⟨hole.tree :: rest, false⟩
          (.name "seq" :: .opening :: .opening :: .closing :: more)
        = Builder.run ⟨.over .root [] (.bare .root) :: hole.fill (.bare (.call "seq")) :: rest,
            true⟩ more := by
    have hname : Builder.run ⟨hole.tree :: rest, false⟩
          (.name "seq" :: .opening :: .opening :: .closing :: more)
        = Builder.run ⟨hole.fill (.bare (.call "seq")) :: rest, true⟩
          (.opening :: .opening :: .closing :: more) :=
      run_put (by simp) (put_hole hole rfl rest)
    rw [hname, run_opening, run_opening]
    exact run_closing false (by simp) rfl (put_hole .fresh rfl _) more
  cases h with
  | nil =>
    refine ⟨_, evalTree_listOf hmarker rfl, fun hole rest more => ?_⟩
    -- Without items only the marker is there, and no row has to be closed.
    have hclose : Builder.close
        (.over .root [] (.bare .root) :: hole.fill (.bare (.call "seq")) :: rest)
          = .ok (.over .root [] (.bare .root) :: hole.fill (.bare (.call "seq")) :: rest) := rfl
    have hclosing := run_closing true (by simp) hclose
      (put_below hole (.call "seq") (.over .root [] (.bare .root)) rfl rfl rfl rest)
      more
    simpa [rowTokens] using (hopened hole rest (.closing :: more)).trans hclosing
  | @cons ts v tss vs hts htss =>
    -- With items the marker is the first item of a row.
    obtain ⟨row, hrow, hop, hitems⟩ := run_items (.cons hts htss) (by simp) hmarker
    refine ⟨_, evalTree_listOf (evalTree_root hrow) rfl, fun hole rest more => ?_⟩
    have hclosing := run_closing true (by simp)
      (close_row hop (hole.fill (.bare (.call "seq"))) rest)
      (put_below hole (.call "seq") (.over .root [] row) rfl rfl rfl rest) more
    have hinside := (hopened hole rest (rowTokens (ts :: tss) ++ .closing :: more)).trans
      (hitems (hole.fill (.bare (.call "seq")) :: rest) (.closing :: more))
    simpa using hinside.trans hclosing

/-! ### Texts -/

/-- A text has the value of the tree of its tokens. -/
theorem evaluate_of_tokens {cs : List Char} {ts : List Token} {t : Tree} {v : Value}
    (hcs : tokensOf cs = .ok ts) (ht : tree ts = .ok t) (hv : evalTree t = .ok v) :
    evaluate cs = .ok v := by
  have hparse : parse cs = .ok t := by
    have hparse' : parse cs = (tokensOf cs >>= tree) := by
      rw [parse, tokensOf, bind_assoc]
    rw [hparse', hcs]
    exact ht
  rw [evaluate, hparse]
  exact hv

/-- **Building.** A text whose tokens build a value has that value. -/
theorem Builds.evaluate {ts : List Token} {v : Value} (h : Builds ts v) {cs : List Char}
    (hcs : tokensOf cs = .ok ts) : Expression.evaluate cs = .ok v := by
  obtain ⟨t, heval, hrun⟩ := h
  have hstack : Builder.start.run ts = .ok ⟨[.over .root [] t], true⟩ := by
    have hall := hrun .fresh [] []
    rw [List.append_nil] at hall
    exact hall
  have htree : tree ts = .ok (.over .root [] t) := by
    rw [tree, hstack]
    rfl
  exact evaluate_of_tokens hcs htree (evalTree_root heval)

end Questionnaire.Expression
