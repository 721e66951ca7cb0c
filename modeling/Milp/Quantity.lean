import Milp.Number.Remainder

/-!
# Quantities

A quantity is a number or a mark, a truth value out of a numeric array. A mark is not a number, but
it can be calculated with: marks among themselves are joined as truth values, and beside a number a
mark is a zero or a one out of an array.
-/

namespace Milp

inductive Quantity where
  | number (n : Number)
  /-- A truth value out of a numeric array. -/
  | mark (b : Bool)

namespace Quantity

/-- The truth value that is joined with a mark. -/
def bit? : Quantity → Option Bool
  | mark b | number (.truth b) => some b
  | number _ => none

def isMark : Quantity → Bool
  | mark _ => true
  | number _ => false

/-- A mark as a number out of an array. -/
def toNumber : Quantity → Number
  | number n => n
  | mark b => .word (if b then 1 else 0)

/-- The integer by which a quantity can repeat something. A mark is none. -/
def integer? : Quantity → Option Int
  | number n => n.integer?
  | mark _ => none

/-- Carries an operation out: on truth values if one of them is a mark, otherwise on numbers. -/
def combine (onBits : Bool → Bool → Except ScalarError Bool)
    (onNumbers : Number → Number → Except ScalarError Number) (a b : Quantity) :
    Except ScalarError Quantity :=
  match a.bit?, b.bit? with
  | some x, some y =>
    if a.isMark || b.isMark then mark <$> onBits x y
    else number <$> onNumbers a.toNumber b.toNumber
  | _, _ => number <$> onNumbers a.toNumber b.toNumber

def add : Quantity → Quantity → Except ScalarError Quantity :=
  combine (fun x y => .ok (x || y)) Number.add

def sub : Quantity → Quantity → Except ScalarError Quantity :=
  combine (fun _ _ => .error .truthDifference) Number.sub

def mul : Quantity → Quantity → Except ScalarError Quantity :=
  combine (fun x y => .ok (x && y)) Number.mul

def div (a b : Quantity) : Except ScalarError Quantity :=
  number <$> Number.div a.toNumber b.toNumber

/-- The quotient rounded down. -/
def floorDiv (a b : Quantity) : Except ScalarError Quantity :=
  number <$> Number.floorDiv a.toNumber b.toNumber

def floorMod (a b : Quantity) : Except ScalarError Quantity :=
  number <$> Number.floorMod a.toNumber b.toNumber

/-- The two are the same number. Beside a mark an integer has to be a word. -/
def same (a b : Quantity) : Except ScalarError Bool :=
  match a, b with
  | mark _, number (.whole n) | number (.whole n), mark _ => do
    Number.same (.word (← Number.wordOfInt n)) (if a.isMark then a else b).toNumber
  | _, _ => Number.same a.toNumber b.toNumber

def kind : Quantity → Kind
  | number n => n.kind
  | mark _ => .element "bool" "bool"

/-- The quantity as a double. -/
def measure (a : Quantity) : Except ScalarError Number := do return .double (← a.toNumber.toDouble)

def text : Quantity → String
  | number n => n.text
  | mark b => Number.truthText b

/-- As `text`, where an integer must not have too many digits. -/
def toText : Quantity → Except ScalarError String
  | number n => n.writtenOut
  | mark b => .ok (Number.truthText b)

/-- The form that tells marks from truth values. -/
def display : Quantity → String
  | number n => n.display
  | mark b => "np." ++ Number.truthText b ++ "_"

end Quantity

end Milp
