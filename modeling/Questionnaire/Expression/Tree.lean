import Questionnaire.Expression.Token

namespace Questionnaire.Expression

/-!
# Operator trees

Tokens become a tree.  A stack holds the trees that are still open, one for each open
parenthesis and one for each sequence; a new operator is put into the top of the stack at the
place that its precedence demands.

- `Operator`: the operators with their precedence and their number of operands.
- `Tree`: an operator with its operands, the latest one apart.
- `Tree.insert`: puts an operator into a tree.
- `Builder.step`: one token; `tree`: the tree of a row of tokens.
-/

/-! ### Operators -/

/-- An operator of an expression. -/
inductive Operator where
  /-- Parentheses, and the expression as a whole. -/
  | root
  | add
  | subtract
  | negate
  | multiply
  | divide
  | modulo
  | power
  | equal
  | notEqual
  | greater
  | less
  | greaterEqual
  | lessEqual
  | and
  | or
  | not
  | assign (combined : Bool)
  | tuple
  | chain
  | constant (value : Value)
  /-- A name that an assignment writes to. -/
  | target (name : String)
  | variable (name : String)
  | call (name : String)

namespace Operator

/-- Operators of higher precedence bind their operands first. -/
def precedence : Operator → Nat
  | .chain => 0
  | .tuple => 40
  | .assign _ => 50
  | .or => 70
  | .and => 75
  | .equal | .notEqual | .greater | .less | .greaterEqual | .lessEqual => 80
  | .add | .subtract => 95
  | .multiply | .divide | .modulo => 100
  | .negate | .not => 110
  | .power => 120
  | .call _ => 190
  | .root | .constant _ | .target _ | .variable _ => 200

/-- The greatest number of operands, if there is one. -/
def capacity : Operator → Option Nat
  | .tuple | .chain => none
  | .root | .negate | .not | .call _ => some 1
  | .constant _ | .target _ | .variable _ => some 0
  | _ => some 2

/-- An operator without operands. -/
def isLeaf (op : Operator) : Bool := op.capacity == some 0

/-- The root of a parenthesis or of the whole expression. -/
def isRoot : Operator → Bool
  | .root => true
  | _ => false

/-- An operator in front of its one operand. -/
def isUnary (op : Operator) : Bool := op.capacity == some 1 && !op.isRoot

/-- An operator that takes any number of operands. -/
def isSequence (op : Operator) : Bool := op.capacity == none

/-- Operators of this kind group from the right. -/
def groupsRight : Operator → Bool
  | .assign false | .call _ => true
  | _ => false

/-- Both are sequences of one kind. -/
def sameSequence : Operator → Operator → Bool
  | .tuple, .tuple | .chain, .chain => true
  | _, _ => false

/-- The operator `inner` goes below `outer` when it comes after it. -/
def yieldsTo (outer inner : Operator) : Bool :=
  outer.precedence < inner.precedence || inner.isUnary
    || (outer.precedence == inner.precedence && outer.groupsRight && inner.groupsRight)

end Operator

/-! ### Trees -/

/-- An operator without operands, or with the latest operand and the earlier ones, of which the
    latest comes first. -/
inductive Tree where
  | bare (op : Operator)
  | over (op : Operator) (earlier : List Tree) (latest : Tree)

namespace Tree

/-- The operator at the top. -/
def op : Tree → Operator
  | .bare op => op
  | .over op _ _ => op

/-- The number of operands. -/
def arity : Tree → Nat
  | .bare _ => 0
  | .over _ earlier _ => earlier.length + 1

/-- Adds a latest operand. -/
def push : Tree → Tree → Tree
  | .bare op, child => .over op [] child
  | .over op earlier latest, child => .over op (latest :: earlier) child

/-- More operands than the operator can take. -/
def isOverfull (t : Tree) : Bool := match t.op.capacity with
  | some most => most < t.arity
  | none => false

/-- Puts `new` where `latest`, the only full operand in its way, gives it room: it takes the place
    of `latest` under `op` and takes `latest` as its operand. -/
def rotate (op : Operator) (earlier : List Tree) (latest new : Tree) : Except Failure Tree :=
  if new.op.isLeaf then .error .appendedToLeaf
  else if new.op.isRoot && (op.isRoot || new.arity ≠ 0 || latest.op.isRoot) then
    .error .missingOperator
  else .ok (.over op earlier (new.push latest))

/-- Puts `new` into a tree.  With `direct` the precedence of the top does not matter. -/
def insert (t : Tree) (new : Tree) (direct : Bool) : Except Failure Tree :=
  if !(direct || t.op.yieldsTo new.op) then .error .precedenceViolation
  else if t.op.isLeaf then .error .appendedToLeaf
  else match t with
    | .bare op => .ok (.over op [] new)
    | .over op earlier latest =>
      -- The operator is full: the new tree goes into its latest operand, or takes that one over.
      if op.capacity == some (earlier.length + 1) then
        if latest.op.yieldsTo new.op then .over op earlier <$> latest.insert new false
        else rotate op earlier latest new
      else .ok (.over op (latest :: earlier) new)

end Tree

/-! ### The stack -/

/-- The open trees, the innermost first, and whether the last token ended a value. -/
structure Builder where
  stack : List Tree
  afterValue : Bool

namespace Builder

/-- One open tree, for the whole expression. -/
def start : Builder := ⟨[.bare .root], false⟩

/-- Closes the sequences on top of the stack, each into the tree below it.  The tree `top` has
    been taken off the stack. -/
def closeSequences (top : Tree) : List Tree → Except Failure (List Tree)
  | [] =>
    if top.op.isRoot then (if top.isOverfull then .error .missingOperator else .ok [top])
    else .error .unmatchedClosing
  | below :: rest =>
    if top.op.isRoot || !top.op.isSequence then
      if top.isOverfull then .error .missingOperator else .ok (top :: below :: rest)
    else closeSequences (below.push top) rest

/-- Closes the sequences on top of the stack. -/
def close : List Tree → Except Failure (List Tree)
  | [] => .error .unmatchedClosing
  | top :: rest => closeSequences top rest

/-- Closes the open trees of a higher precedence than a new sequence, and gives the last one
    closed with the rest of the stack. -/
def closeAbove (op : Operator) (top : Tree) : List Tree → Except Failure (Tree × List Tree)
  | [] => .error .unmatchedClosing
  | below :: rest =>
    if op.precedence < below.op.precedence then closeAbove op (below.push top) rest
    else .ok (top, below :: rest)

/-- Puts a sequence operator onto the stack. -/
def putSequence (op : Operator) (top : Tree) (rest : List Tree) : Except Failure (List Tree) :=
  if top.op.sameSequence op then .ok (top.push (.bare .root) :: rest)
  -- The first separator behind a bracket opens a sequence over what stands there.
  else if top.op.isRoot then .ok (.over op [top] (.bare .root) :: .bare .root :: rest)
  else match top with
    | .over outer earlier latest =>
      -- A sequence that binds tighter takes the latest operand for its first item.
      if outer.precedence < op.precedence then
        let outerTree := match earlier with
          | [] => .bare outer
          | before :: more => .over outer more before
        .ok (.over op [latest] (.bare .root) :: outerTree :: rest)
      else do
        -- Otherwise whatever binds tighter is closed into it.
        let (closed, rest) ← closeAbove op top rest
        .ok ((Tree.bare op).push closed :: rest)
    | .bare _ => .error .unmatchedClosing

/-- Puts a tree into the top of the stack. -/
def put (new : Tree) : List Tree → Except Failure (List Tree)
  | [] => .error .unmatchedClosing
  | top :: rest =>
    if new.op.isSequence then putSequence new.op top rest
    else if top.op.isSequence then
      -- Inside a sequence, a tree goes into the latest item.
      match top with
      | .over op earlier latest => do
        let latest ← latest.insert new true
        .ok (.over op earlier latest :: rest)
      | .bare _ => .error .unmatchedClosing
    else (· :: rest) <$> top.insert new true

/-- The operator that a token stands for, given what is around it. -/
def operatorOf (afterValue : Bool) (next : Option Token) : Token → Operator
  | .plus => .add
  | .minus => if afterValue then .subtract else .negate
  | .star => .multiply
  | .slash => .divide
  | .percent => .modulo
  | .hat => .power
  | .equal => .equal
  | .notEqual => .notEqual
  | .greater => .greater
  | .less => .less
  | .greaterEqual => .greaterEqual
  | .lessEqual => .lessEqual
  | .and => .and
  | .or => .or
  | .not => .not
  | .opening | .closing => .root
  | .assign combined => .assign combined
  | .comma => .tuple
  | .semicolon => .chain
  | .name s =>
    if next.any Token.isAssignment then .target s
    else if next.any Token.beginsValue then .call s
    else .variable s
  | .constant value => .constant value

/-- One token, followed by `next`. -/
def step (b : Builder) (token : Token) (next : Option Token) : Except Failure Builder := do
  let stack ← match token with
    | .opening => .ok (.bare .root :: b.stack)
    | .closing =>
      if b.stack.length ≤ 1 then .error .unmatchedClosing
      else match ← close b.stack with
        | top :: rest => put top rest
        | [] => .error .unmatchedClosing
    | token => put (.bare (operatorOf b.afterValue next token)) b.stack
  .ok ⟨stack, token.endsValue⟩

/-- A row of tokens. -/
def run (b : Builder) : List Token → Except Failure Builder
  | [] => .ok b
  | token :: rest => do (← b.step token rest.head?).run rest

end Builder

/-- The tree of a row of tokens. -/
def tree (tokens : List Token) : Except Failure Tree := do
  match ← Builder.close (← Builder.start.run tokens).stack with
  | [] => .error .unmatchedClosing
  | [t] => .ok t
  | _ => .error .unmatchedOpening

end Questionnaire.Expression
