import Questionnaire.Expression.Evaluate
import Questionnaire.Proofs.Except

namespace Questionnaire

/-!
# Expressions yield data

Functions can be called in an expression, but no function is ever the value of one: the constants
that a text writes are data, operators make data of data, and a tree holds no other operators than
those that its tokens stand for.

* `Yields` — every result of a computation has a property; `Yields.bind` puts computations together.
* `Value.IsData` — a value in which no function occurs.
* `yieldsData_function`, `yieldsData_apply` — functions and operators.
* `Tree.IsData`, `yields_tree` — the tree of a row of tokens.
* `yields_tokens` — the tokens of a text.
* `yieldsData_evaluate` — the value of a text.
-/

/-- A value in which no function occurs. -/
inductive Value.IsData : Value → Prop where
  | none : IsData .none
  | bool (b : Bool) : IsData (.bool b)
  | int (i : Int64) : IsData (.int i)
  | float (x : Float) : IsData (.float x)
  | str (s : String) : IsData (.str s)
  | seq {items : List Value} (h : ∀ v ∈ items, IsData v) : IsData (.seq items)

attribute [simp] Value.IsData.none Value.IsData.bool Value.IsData.int Value.IsData.float
  Value.IsData.str

/-- A tuple is data exactly if its items are. -/
@[simp] theorem Value.isData_seq {items : List Value} :
    (Value.seq items).IsData ↔ ∀ v ∈ items, v.IsData :=
  ⟨fun | .seq h => h, .seq⟩

namespace Expression

variable {ε α β : Type}

/-! ### Results of a computation -/

/-- Every result of a computation has a property. -/
def Yields (p : α → Prop) (x : Except ε α) : Prop := ∀ a, x = .ok a → p a

/-- A property holds of every result of a computation that has one if it holds of that. -/
@[simp] theorem yields_ok {p : α → Prop} {a : α} : Yields p (.ok a : Except ε α) ↔ p a := by
  simp [Yields]

/-- A fault is no result, so there is nothing to hold. -/
@[simp] theorem yields_error (p : α → Prop) (e : ε) : Yields p (.error e) := nofun

/-- A second computation may use what holds of the results of the first one. -/
theorem Yields.bind {p : α → Prop} {q : β → Prop} {x : Except ε α} {f : α → Except ε β}
    (hx : Yields p x) (hf : ∀ a, p a → Yields q (f a)) : Yields q (x >>= f) := fun _ h =>
  have ⟨a, ha, hb⟩ := Except.bind_eq_ok.mp h
  hf a (hx a ha) _ hb

/-- The first part does not matter where the second one has the property whatever it is given. -/
theorem yields_bind {q : β → Prop} {x : Except ε α} {f : α → Except ε β}
    (hf : ∀ a, Yields q (f a)) : Yields q (x >>= f) :=
  Yields.bind (p := fun _ => True) (fun _ _ => trivial) fun a _ => hf a

/-- A result that is changed has what the change makes of its property. -/
theorem Yields.map {p : α → Prop} {q : β → Prop} {x : Except ε α} {f : α → β}
    (hx : Yields p x) (hf : ∀ a, p a → q (f a)) : Yields q (f <$> x) := fun _ h => by
  obtain ⟨a, ha, rfl⟩ := Except.map_eq_ok.mp h
  exact hf a (hx a ha)

/-- A computation has no result in which a function occurs. -/
abbrev YieldsData (x : Except ε Value) : Prop := Yields Value.IsData x

/-! ### Functions -/

/-- The items of a tuple of data are data. -/
theorem yields_asTuple {v : Value} (h : v.IsData) :
    Yields (fun items => ∀ w ∈ items, w.IsData) (asTuple v) := by
  cases h with
  | seq hitems => exact yields_ok.mpr hitems
  | _ => simp [asTuple]

/-- The three values of a triple of data are data. -/
theorem yields_asTriple {v : Value} (h : v.IsData) :
    Yields (fun (a, b, c) => a.IsData ∧ b.IsData ∧ c.IsData) (asTriple v) :=
  (yields_asTuple h).bind fun items hitems => by
    split
    · simpa using hitems
    · exact yields_error _ _

/-- One of two values is chosen, and no other comes of it. -/
theorem yieldsData_choose {v : Value} (h : v.IsData) : YieldsData (choose v) :=
  (yields_asTriple h).bind fun _ habc => yields_bind fun p => by cases p <;> simp [habc]

/-- A list holds no other items than the tuple that it is made of. -/
theorem yieldsData_listOf {v : Value} (h : v.IsData) : YieldsData (listOf v) := by
  cases h with
  | seq hitems => exact yields_ok.mpr (.seq fun w hw => hitems w (List.mem_of_mem_drop hw))
  | _ => simp [listOf]

/-- A function of a number has a number as its value. -/
@[simp] theorem yieldsData_ofNumber (f : Float → Float) (v : Value) : YieldsData (ofNumber f v) :=
  yields_bind fun _ => yields_ok.mpr (.float _)

/-- A function of two numbers has a number as its value. -/
@[simp] theorem yieldsData_ofNumbers (f : Float → Float → Float) (v : Value) :
    YieldsData (ofNumbers f v) :=
  yields_bind fun (_, _) => yields_bind fun _ => yields_bind fun _ => yields_ok.mpr (.float _)

/-- A test of a number has a truth value. -/
@[simp] theorem yieldsData_testOfNumber (f : Float → Bool) (v : Value) :
    YieldsData (testOfNumber f v) :=
  yields_bind fun _ => yields_ok.mpr (.bool _)

/-- A function of two integers has an integer as its value. -/
@[simp] theorem yieldsData_ofIntegers (f : Int64 → Int64 → Int64) (v : Value) :
    YieldsData (ofIntegers f v) :=
  yields_bind fun (_, _) => yields_bind fun _ => yields_bind fun _ => yields_ok.mpr (.int _)

/-- A function of a string has a string as its value. -/
@[simp] theorem yieldsData_ofString (f : String → String) (v : Value) :
    YieldsData (ofString f v) :=
  yields_bind fun _ => yields_ok.mpr (.str _)

/-- The complement of an integer is an integer. -/
@[simp] theorem yieldsData_complement (v : Value) :
    YieldsData (do .ok (.int (~~~ (← asInteger v)))) :=
  yields_bind fun _ => yields_ok.mpr (.int _)

/-- The magnitude of a number is a number. -/
@[simp] theorem yieldsData_magnitude (v : Value) : YieldsData (magnitude v) := by
  cases v <;> simp [magnitude]

/-- The least of some numbers is a number. -/
@[simp] theorem yieldsData_least (v : Value) : YieldsData (least v) :=
  yields_bind fun _ => yields_bind fun (_, _) => yields_ok.mpr (by split <;> simp)

/-- The greatest of some numbers is a number. -/
@[simp] theorem yieldsData_greatest (v : Value) : YieldsData (greatest v) :=
  yields_bind fun _ => yields_bind fun (_, _) => yields_ok.mpr (by split <;> simp)

/-- The name of a shape is a string. -/
@[simp] theorem yieldsData_shapeOf (v : Value) : YieldsData (shapeOf v) :=
  yields_ok.mpr (.str _)

/-- Whether a tuple holds a scalar is a truth value. -/
@[simp] theorem yieldsData_holds (v : Value) : YieldsData (holds v) :=
  yields_bind fun (items, _) => by
    cases items with
    | seq => exact yields_bind fun _ => yields_ok.mpr (.bool _)
    | _ => exact yields_error _ _

/-- Whether a tuple holds one of several scalars is a truth value. -/
@[simp] theorem yieldsData_holdsAny (v : Value) : YieldsData (holdsAny v) :=
  yields_bind fun (items, wanted) => by
    cases items with
    | seq =>
      cases wanted with
      | seq => exact yields_bind fun _ => yields_ok.mpr (.bool _)
      | _ => exact yields_error _ _
    | _ => exact yields_error _ _

/-- A size is an integer. -/
@[simp] theorem yieldsData_size (v : Value) : YieldsData (size v) := by
  cases v <;> simp [size]

/-- The text of a value is a string. -/
@[simp] theorem yieldsData_textOf (v : Value) : YieldsData (textOf v) := by
  cases v <;> simp [textOf]

/-- A slice of a string is a string. -/
theorem yieldsData_slice (s : String) (first last : Nat) : YieldsData (slice s first last) := by
  unfold slice
  split
  · exact yields_error _ _
  · split
    · exact yields_error _ _
    · split
      · exact yields_error _ _
      · exact yields_ok.mpr (.str _)

/-- A part of a string is a string, wherever it ends. -/
@[simp] theorem yieldsData_substring (v : Value) : YieldsData (substring v) :=
  yields_bind fun _ => by
    split
    · exact yields_bind fun _ => yields_bind fun _ => yieldsData_slice _ _ _
    · exact yields_bind fun _ => yields_bind fun _ => yields_bind fun _ => yieldsData_slice _ _ _
    · exact yields_error _ _

/-- Functions make data of data. -/
theorem yieldsData_function {name : String} {f : Function} (hf : function? name = some f)
    {v : Value} (h : v.IsData) : YieldsData (f v) := by
  unfold function? at hf
  split at hf
  case h_51 => cases hf
  all_goals
    obtain rfl := Option.some.inj hf
    simp [yieldsData_listOf h, yieldsData_choose h]

/-! ### Operators -/

/-- The operator is not a constant in which a function occurs. -/
def Operator.IsData : Operator → Prop
  | .constant v => v.IsData
  | _ => True

/-- An operator of two operands gives data if its function does. -/
theorem yieldsData_binary {f : Value → Value → Except Fault Value}
    (hf : ∀ a b, YieldsData (f a b)) (operands : List Value) : YieldsData (binary f operands) := by
  unfold binary
  split
  · exact hf _ _
  · exact yields_error _ _

/-- An operator of one operand gives data if its function does on that operand. -/
theorem yieldsData_unary {f : Value → Except Fault Value} {operands : List Value}
    (hf : ∀ a ∈ operands, YieldsData (f a)) : YieldsData (unary f operands) := by
  unfold unary
  split
  · exact hf _ (by simp)
  · exact yields_error _ _

/-- Arithmetic gives numbers. -/
theorem yieldsData_arithmetic (operation : IntegerOperation) (exact : Int → Int → Option Int)
    (rounded : Float → Float → Float) (a b : Value) :
    YieldsData (arithmetic operation exact rounded a b) :=
  yields_bind fun _ => yields_bind fun _ => by
    split
    · split <;> simp
    · simp

/-- A sum is a number or a string. -/
theorem yieldsData_sum (a b : Value) : YieldsData (sum a b) :=
  yields_bind fun _ => yields_bind fun _ => by
    split
    · simp
    · simp
    · simp
    · exact yieldsData_arithmetic _ _ _ _ _

/-- A comparison gives a truth value. -/
theorem yieldsData_comparison (onStrings : String → String → Bool)
    (onIntegers : Int64 → Int64 → Bool) (onNumbers : Float → Float → Bool) (a b : Value) :
    YieldsData (comparison onStrings onIntegers onNumbers a b) :=
  yields_bind fun _ => yields_bind fun _ => by
    split
    · simp
    · simp
    · exact yields_bind fun _ => yields_bind fun _ => yields_ok.mpr (.bool _)

/-- A negated number is a number. -/
theorem yieldsData_negation (a : Value) : YieldsData (negation a) := by
  unfold negation
  split
  · split <;> simp
  · exact yields_bind fun _ => yields_ok.mpr (.float _)

/-- The last of several operands is one of them; without any, it is the empty value. -/
theorem isData_lastOf {operands : List Value} (h : ∀ v ∈ operands, v.IsData) :
    (lastOf operands).IsData := by
  fun_induction lastOf operands with
  | case1 => exact .none
  | case2 v => exact h v (by simp)
  | case3 v rest _ ih => exact ih fun w hw => h w (by simp [hw])

/-- Operators make data of data. -/
theorem yieldsData_apply {op : Operator} (hop : op.IsData) {operands : List Value}
    (h : ∀ v ∈ operands, v.IsData) : YieldsData (apply op operands) := by
  -- The operators go by the shape of their operands; each yields data from data.
  cases op with
  | root =>
    cases operands with
    | nil => exact yields_ok.mpr .none
    | cons v operands => exact yields_ok.mpr (h v (by simp))
  | add => exact yieldsData_binary yieldsData_sum operands
  | subtract | multiply | divide | modulo =>
    exact yieldsData_binary (yieldsData_arithmetic _ _ _) operands
  | greater | less | greaterEqual | lessEqual =>
    exact yieldsData_binary (yieldsData_comparison _ _ _) operands
  | equal | notEqual => exact yieldsData_binary (fun _ _ => yields_ok.mpr (.bool _)) operands
  | power =>
    exact yieldsData_binary (fun _ _ => yields_bind fun _ => yields_bind fun _ =>
      yields_ok.mpr (.float _)) operands
  | and | or =>
    exact yieldsData_binary (fun _ _ => yields_bind fun _ => yields_bind fun _ =>
      yields_ok.mpr (.bool _)) operands
  | negate => exact yieldsData_unary fun v _ => yieldsData_negation v
  | not => exact yieldsData_unary fun _ _ => yields_bind fun _ => yields_ok.mpr (.bool _)
  | tuple => exact yields_ok.mpr (.seq h)
  | chain => exact yields_ok.mpr (isData_lastOf h)
  | constant v => exact yields_ok.mpr hop
  | target name => exact yields_ok.mpr (.str name)
  | call name =>
    refine yieldsData_unary fun v hv => ?_
    split
    · next hf => exact yieldsData_function hf (h v hv)
    · exact yields_error _ _
  | _ => exact yields_error _ _

/-! ### Trees -/

/-- A tree without constants in which functions occur. -/
inductive Tree.IsData : Tree → Prop where
  | leaf {op : Operator} (hop : op.IsData) : IsData (.bare op)
  | node {op : Operator} {earlier : List Tree} {latest : Tree} (hop : op.IsData)
      (hearlier : ∀ t ∈ earlier, IsData t) (hlatest : IsData latest) :
      IsData (.over op earlier latest)

/-- Operands have data as their values if each of them has. -/
theorem yields_evalEarlier {ts : List Tree} (h : ∀ t ∈ ts, YieldsData (evalTree t)) :
    Yields (fun vs => ∀ v ∈ vs, v.IsData) (evalEarlier ts) := by
  induction ts with
  | nil => simp [evalEarlier]
  | cons t ts ih =>
    rw [evalEarlier]
    refine (ih fun u hu => h u (by simp [hu])).bind fun vs hvs => ?_
    exact (h t (by simp)).bind fun v hv => yields_ok.mpr (by simpa [hv] using hvs)

/-- The value of such a tree is data. -/
theorem yieldsData_evalTree {t : Tree} (h : t.IsData) : YieldsData (evalTree t) := by
  induction h with
  | leaf hop => exact yieldsData_apply hop (by simp)
  | node hop _ _ ihearlier ihlatest =>
    rw [evalTree]
    refine (yields_evalEarlier ihearlier).bind fun vs hvs => ihlatest.bind fun v hv => ?_
    exact yieldsData_apply hop (by simpa [or_imp, forall_and, hv] using hvs)

namespace Tree.IsData

variable {t new latest : Tree} {op : Operator} {earlier : List Tree}

/-- The operator at the top of a tree of data is data. -/
theorem top (h : t.IsData) : t.op.IsData := by
  cases h <;> assumption

/-- A tree of data may get another one as its latest operand. -/
theorem push (h : t.IsData) (hnew : new.IsData) : (t.push new).IsData := by
  cases h with
  | leaf hop => exact .node hop (by simp) hnew
  | node hop hearlier hlatest => exact .node hop (by simpa [hlatest] using hearlier) hnew

/-- A tree of data may get another one in place of its latest operand, which goes below that one. -/
theorem rotate (hop : op.IsData) (hearlier : ∀ t ∈ earlier, t.IsData) (hlatest : latest.IsData)
    (hnew : new.IsData) : Yields IsData (Tree.rotate op earlier latest new) := by
  unfold Tree.rotate
  split
  · exact yields_error _ _
  · split
    · exact yields_error _ _
    · exact yields_ok.mpr (.node hop hearlier (hnew.push hlatest))

/-- Wherever a tree of data is put into another one, the whole is data. -/
theorem insert (h : t.IsData) (hnew : new.IsData) (direct : Bool) :
    Yields IsData (t.insert new direct) := by
  -- The induction is on the tree, down its latest operands.
  induction h generalizing direct with
  | leaf hop =>
    rw [Tree.insert]
    split
    · exact yields_error _ _
    · split
      · exact yields_error _ _
      · exact yields_ok.mpr (.node hop (by simp) hnew)
  | node hop hearlier hlatest _ ih =>
    rw [Tree.insert]
    split
    · exact yields_error _ _
    · split
      · exact yields_error _ _
      · split
        · split
          · exact (ih false).map fun _ h => .node hop hearlier h
          · exact rotate hop hearlier hlatest hnew
        · exact yields_ok.mpr (.node hop (by simpa [hlatest] using hearlier) hnew)

end Tree.IsData

/-! ### Stacks -/

/-- A stack of trees without constants in which functions occur. -/
def AreData (stack : List Tree) : Prop := ∀ t ∈ stack, t.IsData

/-- An empty stack holds no function. -/
@[simp] theorem areData_nil : AreData [] := by simp [AreData]

/-- A stack is data exactly if its trees are. -/
@[simp] theorem areData_cons {t : Tree} {stack : List Tree} :
    AreData (t :: stack) ↔ t.IsData ∧ AreData stack := by simp [AreData]

/-- The bare root is data. -/
@[simp] theorem Tree.isData_root : (Tree.bare .root).IsData := .leaf trivial

namespace Builder

variable {top new : Tree} {stack : List Tree}

/-- Sequences are closed into the trees below them, and the stack stays data. -/
theorem yields_closeSequences (htop : top.IsData) (h : AreData stack) :
    Yields AreData (closeSequences top stack) := by
  induction stack generalizing top with
  | nil =>
    rw [closeSequences]
    split
    · split <;> simp [htop]
    · exact yields_error _ _
  | cons below stack ih =>
    obtain ⟨hbelow, hstack⟩ := areData_cons.mp h
    rw [closeSequences]
    split
    · split <;> simp [htop, hbelow, hstack]
    · exact ih (hbelow.push htop) hstack

/-- Closing whatever is on top of the stack keeps it data. -/
theorem yields_close (h : AreData stack) : Yields AreData (close stack) := by
  cases stack with
  | nil => exact yields_error _ _
  | cons top stack => exact yields_closeSequences (areData_cons.mp h).1 (areData_cons.mp h).2

/-- Open trees above a sequence are closed into each other, and what comes of it is data. -/
theorem yields_closeAbove (op : Operator) (htop : top.IsData) (h : AreData stack) :
    Yields (fun (closed, rest) => closed.IsData ∧ AreData rest) (closeAbove op top stack) := by
  induction stack generalizing top with
  | nil => exact yields_error _ _
  | cons below stack ih =>
    obtain ⟨hbelow, hstack⟩ := areData_cons.mp h
    rw [closeAbove]
    split
    · exact ih (hbelow.push htop) hstack
    · simp [htop, hbelow, hstack]

/-- A sequence that is opened or goes on takes over trees that were there. -/
theorem yields_putSequence {op : Operator} (hop : op.IsData) (htop : top.IsData)
    (h : AreData stack) : Yields AreData (putSequence op top stack) := by
  unfold putSequence
  split
  · simp [htop.push Tree.isData_root, h]
  · split
    · have hnew : (Tree.over op [top] (.bare .root)).IsData :=
        .node hop (by simpa using htop) Tree.isData_root
      simp [hnew, h]
    · cases htop with
      | leaf => exact yields_error _ _
      | @node outer earlier latest houter hearlier hlatest =>
        -- The last operand leaves the open tree and becomes the first item of the sequence.
        show Yields AreData (if _ then _ else _)
        split
        · have hnew : (Tree.over op [latest] (.bare .root)).IsData :=
            .node hop (by simpa using hlatest) Tree.isData_root
          cases earlier with
          | nil => simp [hnew, Tree.IsData.leaf houter, h]
          | cons before more =>
            have hrest : (Tree.over outer more before).IsData :=
              .node houter (fun t ht => hearlier t (by simp [ht])) (hearlier before (by simp))
            simp [hnew, hrest, h]
        · refine (yields_closeAbove op (.node houter hearlier hlatest) h).bind ?_
          rintro ⟨closed, rest⟩ ⟨hclosed, hrest⟩
          simp [(Tree.IsData.leaf hop).push hclosed, hrest]

/-- A tree of data is put into the stack, which stays data. -/
theorem yields_put (hnew : new.IsData) (h : AreData stack) : Yields AreData (put new stack) := by
  cases stack with
  | nil => exact yields_error _ _
  | cons top stack =>
    obtain ⟨htop, hstack⟩ := areData_cons.mp h
    show Yields AreData (if _ then _ else _)
    split
    · exact yields_putSequence hnew.top htop hstack
    · split
      · cases htop with
        | leaf => exact yields_error _ _
        | node hop hearlier hlatest =>
          exact (hlatest.insert hnew true).bind fun _ h => by
            simp [Tree.IsData.node hop hearlier h, hstack]
      · exact (htop.insert hnew true).map fun _ h => by simp [h, hstack]

end Builder

/-! ### Tokens -/

/-- The token is not a constant in which a function occurs. -/
def Token.IsData : Token → Prop
  | .constant v => v.IsData
  | _ => True

namespace Builder

/-- The operator of a token is data if the token is. -/
theorem isData_operatorOf {token : Token} (h : token.IsData) (afterValue : Bool)
    (next : Option Token) : (operatorOf afterValue next token).IsData := by
  cases token with
  | constant v => exact h
  | minus =>
    show Operator.IsData (if _ then _ else _)
    split <;> trivial
  | name s =>
    show Operator.IsData (if _ then _ else if _ then _ else _)
    split
    · trivial
    · split <;> trivial
  | _ => trivial

/-- A token of data keeps the stack data. -/
theorem yields_step {b : Builder} {token : Token} (hb : AreData b.stack) (h : token.IsData)
    (next : Option Token) : Yields (fun b => AreData b.stack) (b.step token next) := by
  -- A token puts an operator on the stack, or opens or closes a level.
  have hput : Yields AreData (put (.bare (operatorOf b.afterValue next token)) b.stack) :=
    yields_put (.leaf (isData_operatorOf h _ _)) hb
  have hend {x : Except Failure (List Tree)} (hx : Yields AreData x) :
      Yields (fun b => AreData b.stack) (do .ok (Builder.mk (← x) token.endsValue)) :=
    hx.bind fun _ hstack => yields_ok.mpr hstack
  unfold step
  dsimp only
  split
  · exact hend (by simpa using hb)
  · split
    · exact yields_error _ _
    · refine (yields_close hb).bind fun stack hstack => ?_
      cases stack with
      | nil => exact yields_error _ _
      | cons top rest =>
        exact hend (yields_put (areData_cons.mp hstack).1 (areData_cons.mp hstack).2)
  · exact hend hput

/-- A row of tokens of data keeps the stack data. -/
theorem yields_run {ts : List Token} (h : ∀ t ∈ ts, t.IsData) {b : Builder}
    (hb : AreData b.stack) : Yields (fun b => AreData b.stack) (b.run ts) := by
  induction ts generalizing b with
  | nil => exact yields_ok.mpr hb
  | cons t ts ih =>
    exact (yields_step hb (h t (by simp)) _).bind fun _ hb => ih (fun u hu => h u (by simp [hu])) hb

end Builder

/-- The tree of such tokens. -/
theorem yields_tree {ts : List Token} (h : ∀ t ∈ ts, t.IsData) : Yields Tree.IsData (tree ts) := by
  have hrun : Yields (fun b => AreData b.stack) (Builder.start.run ts) :=
    Builder.yields_run h (by simp [Builder.start])
  refine hrun.bind fun b hb => (Builder.yields_close hb).bind fun stack hstack => ?_
  split
  · exact yields_error _ _
  · exact yields_ok.mpr (areData_cons.mp hstack).1
  · exact yields_error _ _

/-! ### Texts -/

/-- The constant that a word writes is a number or a truth value. -/
theorem isData_constantOf {cs : List Char} {v : Value} (h : constantOf? cs = some v) :
    v.IsData := by
  unfold constantOf? at h
  extract_lets hexadecimal at h
  split at h
  · cases h
    simp
  · cases h
    simp
  · cases h
    simp
  · split at h
    · cases h
      simp
    · split at h
      · cases h
        simp
      · cases h

/-- The token of a word is a truth value, a number or a name. -/
theorem isData_wordToken (cs : List Char) (following : List Lexeme) :
    (wordToken cs following).1.IsData := by
  unfold wordToken
  split
  · next h => exact isData_constantOf h
  · split
    · exact .float _
    · trivial

/-- A mark that is doubled has the token of the pair, or that of an assignment. -/
theorem yields_doubled (c : Char) {token : Token} (h : token.IsData) (following : List Lexeme) :
    Yields (fun (token, _) => token.IsData) (doubled c token following) := by
  unfold doubled
  split
  · exact yields_error _ _
  · split
    · split
      · exact yields_ok.mpr trivial
      · exact yields_ok.mpr h
    · exact yields_error _ _

/-- A mark has one token alone and another one with an equals sign. -/
theorem isData_withEquals {alone combined : Token} (halone : alone.IsData)
    (hcombined : combined.IsData) (following : List Lexeme) :
    (withEquals alone combined following).1.IsData := by
  unfold withEquals
  split
  · exact hcombined
  · exact halone

/-- The token of a mark is data. -/
theorem yields_markToken (c : Char) (following : List Lexeme) :
    Yields (fun (token, _) => token.IsData) (markToken c following) := by
  unfold markToken
  split
  case h_11 | h_12 => exact yields_doubled _ (by trivial) _
  case h_13 | h_14 | h_15 | h_16 => exact yields_ok.mpr trivial
  all_goals exact yields_ok.mpr (isData_withEquals (by trivial) (by trivial) _)

/-- The token of any piece is data. -/
theorem yields_tokenAt (piece : Lexeme) (following : List Lexeme) :
    Yields (fun (token, _) => ∀ t ∈ token, t.IsData) (tokenAt piece following) := by
  cases piece with
  | mark c => exact (yields_markToken c following).map fun _ h => by simpa using h
  | blank => exact yields_ok.mpr (by simp)
  | word cs =>
    refine yields_ok.mpr ?_
    rintro t ⟨⟩
    exact isData_wordToken cs following
  | quoted s => exact yields_ok.mpr (by simp [Token.IsData])

/-- The tokens of a text. -/
theorem yields_tokens (pieces : List Lexeme) :
    Yields (fun ts => ∀ t ∈ ts, t.IsData) (tokens pieces) := by
  have hfrom (skip : Nat) : Yields (fun ts => ∀ t ∈ ts, t.IsData) (tokensFrom skip pieces) := by
    induction pieces generalizing skip with
    | nil => simp [tokensFrom]
    | cons piece rest ih =>
      cases skip with
      | succ skip => exact ih skip
      | zero =>
        have htoken := yields_tokenAt piece rest
        rw [tokensFrom]
        split
        · exact yields_error _ _
        · exact ih _
        · next h => exact (ih _).map fun ts hts => by simpa using ⟨htoken _ h _ rfl, hts⟩
  exact hfrom 0

/-- **Data.** No function occurs in the value of a text. -/
theorem yieldsData_evaluate (cs : List Char) : YieldsData (evaluate cs) := by
  have hparse : Yields Tree.IsData (parse cs) :=
    yields_bind fun pieces => (yields_tokens pieces).bind fun _ hts => yields_tree hts
  unfold evaluate
  split
  · next h => exact yieldsData_evalTree (hparse _ h)
  · exact yields_error _ _

end Expression

end Questionnaire
