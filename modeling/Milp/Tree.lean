import Milp.Token

/-!
# Syntax trees

A tree is built from the tokens of a source one by one. What is unfinished at a level of
parentheses is at most a sum whose last summand is missing and a product whose last factor is; the
levels outside of it wait on a stack. A token is refused exactly when no text could make up for it.

Products bind tighter than sums, and both group to the left.
-/

namespace Milp

inductive Tree (β : Type) where
  | literal (v : β)
  | leaf (v : β)
  | binary (op : Word β) (left right : Tree β)
  deriving DecidableEq, Repr

/-- A constraint as it was written. -/
structure Comparison (β : Type) where
  left : Tree β
  comparator : Word β
  right : Tree β
  deriving DecidableEq, Repr

/-- Why tokens make no tree. -/
inductive GrammarError (β : Type) where
  /-- The tokens end where an operand is due. -/
  | endOfInput
  | unexpected (t : Token β)
  /-- A comparator inside of parentheses. -/
  | nestedComparator (t : Token β)
  /-- A parenthesis that something else follows than its counterpart, or nothing. -/
  | unclosed (opening : Token β) (got : Option (Token β))
  /-- A constraint whose left side something else follows than a comparator, or nothing. -/
  | missingComparator (got : Option (Token β))
  | chainedComparator (t : Token β)
  | trailing (mode : Mode) (t : Token β)
  /-- It cannot be told whether a word is an operator. -/
  | undecided (e : Numeric.BlockError)
  deriving DecidableEq, Repr

namespace GrammarError

variable {β : Type}

/-- The token to blame, if there is one. -/
def token? : GrammarError β → Option (Token β)
  | endOfInput | undecided _ => none
  | unexpected t | nestedComparator t | chainedComparator t | trailing _ t => some t
  | unclosed _ got | missingComparator got => got

/-- The token was taken before it was refused, and taking it needs the token after it. -/
def taken : GrammarError β → Bool
  | unexpected _ | nestedComparator _ => true
  | unclosed _ got | missingComparator got => got.isSome
  | _ => false

/-- The error with other payloads of its tokens. -/
def map {γ : Type} (f : β → γ) : GrammarError β → GrammarError γ
  | endOfInput => endOfInput
  | unexpected t => unexpected (t.map f)
  | nestedComparator t => nestedComparator (t.map f)
  | unclosed opening got => unclosed (opening.map f) (got.map (Token.map f))
  | missingComparator got => missingComparator (got.map (Token.map f))
  | chainedComparator t => chainedComparator (t.map f)
  | trailing mode t => trailing mode (t.map f)
  | undecided e => undecided e

/-- The message of an error; writing the tokens in it may fail. -/
def message {φ : Type} (write : Writer β φ) : GrammarError β → Except φ String
  | endOfInput => .ok "Unexpected end of expression"
  | unexpected t => ("Unexpected token: " ++ ·) <$> t.text write
  | nestedComparator t =>
    ("Comparators are only allowed at the top level of a constraint: " ++ ·) <$> t.text write
  | unclosed opening none => do
    return "Expected ')' to close " ++ (← opening.text write) ++ " but reached the end"
  | unclosed opening (some t) => do
    return "Expected ')' to close " ++ (← opening.text write) ++
      " but got unexpected token: " ++ (← t.text write)
  | missingComparator none =>
    .ok "Expected one of '<=', '==', '>=' but reached the end of the constraint"
  | missingComparator (some t) =>
    ("Expected one of '<=', '==', '>=' but got unexpected token: " ++ ·) <$> t.text write
  | chainedComparator t =>
    ("Constraints take exactly one comparator, got another: " ++ ·) <$> t.text write
  | trailing .expression t => ("Unexpected token at end of expression: " ++ ·) <$> t.text write
  | trailing .constraint t => ("Unexpected token at end of constraint: " ++ ·) <$> t.text write
  | undecided e => .ok e.message

def errorClass : GrammarError β → ErrorClass
  | endOfInput => .endOfInput
  | unexpected _ | nestedComparator _ => .unexpectedToken
  | unclosed _ _ => .unmatchedParenthesis
  | missingComparator _ => .missingComparator
  | chainedComparator _ => .chainedComparator
  | trailing _ _ => .trailingTokens
  | undecided e => e.errorClass

end GrammarError

/-! ### What is unfinished -/

/-- An operation whose right operand is missing. -/
structure Pending (β : Type) where
  left : Tree β
  op : Word β

/-- Gives the missing operand to an operation, if there is one. -/
def Pending.close {β : Type} (p : Option (Pending β)) (t : Tree β) : Tree β :=
  match p with
  | some p => .binary p.op p.left t
  | none => t

/-- One level of parentheses: an unfinished sum and, in its last summand, an unfinished product. -/
structure Level (β : Type) where
  sum : Option (Pending β)
  product : Option (Pending β)

/-- Nothing is unfinished. -/
def Level.fresh {β : Type} : Level β := ⟨none, none⟩

def Level.isFresh {β : Type} (l : Level β) : Bool := l.sum.isNone && l.product.isNone

/-- A source that has been read up to some token. -/
structure Reading (β : Type) where
  /-- The left side of a constraint and its comparator, once that has been read. -/
  left : Option (Tree β × Word β)
  /-- The levels outside of the present one, each with the parenthesis that ended it for now. -/
  enclosing : List (Level β × Token β)
  level : Level β
  /-- The last operand of the present level, products in it being finished; nothing while an operand
  is due. -/
  operand : Option (Tree β)

namespace Reading

variable {β : Type}

/-- Nothing has been read yet. -/
def start : Reading β := ⟨none, [], .fresh, none⟩

/-- An operand that was due. -/
def take (r : Reading β) (t : Tree β) : Reading β :=
  { r with
    level := { r.level with product := none }
    operand := some (Pending.close r.level.product t) }

/-- The whole sum of the present level, whose last operand is `v`. -/
def total (r : Reading β) (v : Tree β) : Tree β := Pending.close r.level.sum v

/-- A token where an operand is due. -/
def first (r : Reading β) (t : Token β) : Except (GrammarError β) (Reading β) :=
  match t.symbol with
  | .number v => .ok (r.take (.literal v))
  | .expression v => .ok (r.take (.leaf v))
  | .opening _ => .ok { r with enclosing := (r.level, t) :: r.enclosing, level := .fresh }
  | .comparator _ =>
    if r.left.isSome && r.enclosing.isEmpty && r.level.isFresh then .error (.chainedComparator t)
    else .error (.unexpected t)
  | _ => .error (.unexpected t)

/-- A token after the operand `v` that neither continues nor closes the level. -/
def stop (mode : Mode) (r : Reading β) (v : Tree β) (t : Token β) :
    Except (GrammarError β) (Reading β) :=
  match r.enclosing, t.symbol with
  | _ :: _, .comparator _ => .error (.nestedComparator t)
  | (_, opening) :: _, _ => .error (.unclosed opening (some t))
  | [], symbol =>
    match mode, r.left, symbol with
    | .expression, _, _ => .error (.trailing .expression t)
    | .constraint, none, .comparator c => .ok { start with left := some (r.total v, c) }
    | .constraint, none, _ => .error (.missingComparator (some t))
    | .constraint, some _, .comparator _ => .error (.chainedComparator t)
    | .constraint, some _, _ => .error (.trailing .constraint t)

/-- A token after the complete operand `v`. -/
def later (mode : Mode) (r : Reading β) (v : Tree β) (t : Token β) :
    Except (GrammarError β) (Reading β) :=
  match t.symbol, r.enclosing with
  | .operator op, _ =>
    match op.sign with
    | .error e => .error (.undecided e)
    | .ok sign =>
      if sign = "*" ∨ sign = "/" then
        .ok { r with level := { r.level with product := some ⟨v, op⟩ }, operand := none }
      else if sign = "+" ∨ sign = "-" then
        .ok { r with level := ⟨some ⟨r.total v, op⟩, none⟩, operand := none }
      else r.stop mode v t
  | .closing _, (outer, _) :: enclosing =>
    .ok (take ⟨r.left, enclosing, outer, none⟩ (r.total v))
  | _, _ => r.stop mode v t

/-- Reads one token. -/
def step (mode : Mode) (r : Reading β) (t : Token β) : Except (GrammarError β) (Reading β) :=
  match r.operand with
  | none => r.first t
  | some v => r.later mode v t

/-- The side of the source that was read last, at the end of the tokens. -/
def finish (r : Reading β) : Except (GrammarError β) (Tree β) :=
  match r.operand, r.enclosing with
  | none, _ => .error .endOfInput
  | some _, (_, opening) :: _ => .error (.unclosed opening none)
  | some v, [] => .ok (r.total v)

end Reading

/-! ### Reading a feed of tokens -/

/-- Why a feed of tokens makes no tree: the feed fails, or its tokens are wrong. -/
inductive ReadError (ε β : Type) where
  | feed (e : ε)
  | grammar (e : GrammarError β)
  deriving DecidableEq, Repr

variable {β ε : Type}

/-- Reads all tokens of a feed. Of a token that was taken before it was refused the next one has
been asked for, so a failure of the feed right there comes first. -/
def Reading.run (mode : Mode) (r : Reading β) :
    Feed (Token β) ε Unit → Except (ReadError ε β) (Reading β)
  | .done _ => .ok r
  | .fail e => .error (.feed e)
  | .next t rest =>
    match r.step mode t with
    | .ok r' => r'.run mode rest
    | .error g =>
      match rest with
      | .fail e => .error (if g.taken then .feed e else .grammar g)
      | _ => .error (.grammar g)

/-- The tree of an expression. -/
def Tree.ofFeed (feed : Feed (Token β) ε Unit) : Except (ReadError ε β) (Tree β) := do
  let r ← Reading.start.run .expression feed
  r.finish.mapError .grammar

/-- The two sides of a constraint and its comparator. -/
def Comparison.ofFeed (feed : Feed (Token β) ε Unit) :
    Except (ReadError ε β) (Comparison β) := do
  let r ← Reading.start.run .constraint feed
  let last ← r.finish.mapError .grammar
  match r.left with
  | none => .error (.grammar (.missingComparator none))
  | some (left, comparator) => .ok ⟨left, comparator, last⟩

/-- The tree with other payloads. -/
def Tree.map {γ : Type} (f : β → γ) : Tree β → Tree γ
  | .literal v => .literal (f v)
  | .leaf v => .leaf (f v)
  | .binary op left right => .binary (op.map f) (left.map f) (right.map f)

end Milp
