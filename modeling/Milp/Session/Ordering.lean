import Milp.Session.Algebra
import Milp.Session.Identity

/-!
# The order of values

The operators that ask for the order of two values. Numbers are ordered by size and texts by their
characters. Lists and tuples are ordered by the first of their items that are not equal, or else by
length. Where a variable or an expression is met, two of the operators make a constraint, and the
other two have no result. Arrays are compared entry by entry, and the result is an array too.
-/

namespace Milp.Session

open Numeric (EntryType)

/-- An operator of the order. -/
inductive OrderTest where
  | below
  | above
  | atMost
  | atLeast
  deriving DecidableEq, Repr

namespace OrderTest

def symbol : OrderTest → String
  | below => "<"
  | above => ">"
  | atMost => "<="
  | atLeast => ">="

/-- The sense of the constraint that the operator makes. -/
def sense? : OrderTest → Option Sense
  | atMost => some .le
  | atLeast => some .ge
  | below | above => none

/-- What the operator is called where it is carried out on arrays. -/
def name : OrderTest → String
  | below => "less"
  | above => "greater"
  | atMost => "less_equal"
  | atLeast => "greater_equal"

/-- The operator for the two values in the other order. -/
def reversed : OrderTest → OrderTest
  | below => above
  | above => below
  | atMost => atLeast
  | atLeast => atMost

/-- The operator holds between values in the given order. -/
def holds : OrderTest → Ordering → Bool
  | below, o => o = .lt
  | above, o => o = .gt
  | atMost, o => o ≠ .gt
  | atLeast, o => o ≠ .lt

end OrderTest

/-- The order of two numbers by their keys; there is none where one is not a number. -/
def Key.order? : Key → Key → Option Ordering
  | number p, number q => some (if p < q then .lt else if p = q then .eq else .gt)
  | infinite x, infinite y => some (if x = y then .eq else if x then .lt else .gt)
  | infinite x, number _ => some (if x then .lt else .gt)
  | number _, infinite y => some (if y then .gt else .lt)
  | _, _ => none

/-- The operator holds between two quantities. -/
def OrderTest.holdsBetween (test : OrderTest) (a b : Quantity) : Bool :=
  match (Key.ofNumber 0 a.toNumber).order? (Key.ofNumber 0 b.toNumber) with
  | some o => test.holds o
  | none => false

/-- The first of the pairs whose values are not equal. -/
def firstDifference : List (Value × Value) → Act (Option (Value × Value))
  | [] => return none
  | (x, y) :: rest => do
    if ← matchesItem x y then firstDifference rest else return some (x, y)

/-- The value takes part in operations on arrays. -/
def actsOnArrays (v : Value) : Bool := v.isArray || v.quantity?.any fun a => a.kind.isElement

/-- Asks for the order of two values as arrays, entry by entry. -/
def orderedEntries (ask : Value → Value → Act Value) (test : OrderTest) (a b : Value) :
    Act Value := do
  let s ← get
  let x ← ofData (s.gridOf a)
  let y ← ofData (s.gridOf b)
  match comparableType? x.type y.type with
  | none =>
    let className := fun t : EntryType => (Kind.entryType t.className).fullName
    throw (.ofScalar (.noOrder test.name (className x.type) (className y.type)))
  | some type => do
    let pairs ← ofData (x.pairs y type)
    let entries ← pairs.entries.mapM fun p => do
      return .ofQuantity (.mark (← ofData (s.truthOf (← ask p.1 p.2))))
    give (.array .truth ⟨pairs.shape, entries⟩)

/-- The parts of a path, by their code points. -/
def pathParts? (v : Value) : Option (List (List Nat)) :=
  match v.content with
  | .path path => some ((Path.parts path).map Text.points)
  | _ => none

/-- Asks for the order of two values. The fuel is used up by one for every level of values in
values. -/
def ordered : (fuel : Nat) → OrderTest → Value → Value → Act Value
  | 0, _, _, _ => giveTruth false
  | fuel + 1, test, a, b => do
    let s ← get
    let refusal := Failure.ofAlgebra (.incomparable test.symbol a.kind.fullName b.kind.fullName)
    let isReversed := !actsOnArrays a
    let isText := a.text?.isSome || b.text?.isSome
    if a.meetInArray b || isText && (actsOnArrays a || actsOnArrays b) then
      if isReversed then orderedEntries (ordered fuel test.reversed) test.reversed b a
      else orderedEntries (ordered fuel test) test a b
    else if a.isAffine || b.isAffine then
      match test.sense? with
      | some sense => comparison sense a b
      | none => throw refusal
    else
      match a.quantity?, b.quantity?, a.text?, b.text? with
      | some x, some y, _, _ => giveTruth (test.holdsBetween x y)
      | _, _, some x, some y =>
        giveTruth (test.holds (compareOfLessAndEq (Text.points x) (Text.points y)))
      | _, _, _, _ =>
        match s.items? a, s.items? b, pathParts? a, pathParts? b with
        | _, _, some ps, some qs => giveTruth (test.holds (compareOfLessAndEq ps qs))
        | none, none, none, none =>
          match a.bytes?, b.bytes? with
          | some x, some y => giveTruth (test.holds (compareOfLessAndEq x y))
          | _, _ => throw refusal
        | some xs, some ys, _, _ =>
          if a.isObject .list == b.isObject .list then
            match ← firstDifference (xs.zip ys) with
            | some (x, y) => ordered fuel test x y
            | none => giveTruth (test.holds (Ord.compare xs.length ys.length))
          else throw refusal
        | _, _, _, _ => throw refusal

/-- Asks for the order of two values. -/
def order (test : OrderTest) (a b : Value) : Act Value := do
  ordered (← get).fuel test a b

/-- Asks whether two values are equal, or whether they are not. -/
def equality (negated : Bool) (a b : Value) : Act Value := do
  if a.meetInArray b then
    let block ← areEqualEntries a b
    give (.array .truth (block.map fun x => .ofQuantity (.mark (x != negated))))
  else giveTruth ((← areEqual a b) != negated)

end Milp.Session
