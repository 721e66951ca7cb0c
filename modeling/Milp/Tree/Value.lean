import Milp.Tree

/-!
# Values of syntax trees

A tree is evaluated from its leaves upwards. Numbers stay numbers as long as they meet only numbers;
anything else makes the result an expression. A product needs a number among its factors, a quotient
needs one as its divisor.
-/

namespace Milp

variable {ν α : Type} [Name ν] [Scalar α]

namespace Operand

/-- A sum, difference or product of two numbers. -/
def ofScalar (r : Except ScalarError α) : Except AlgebraError (Operand ν α) :=
  (r.map number).mapError .scalar

/-- One operation of a tree. -/
def apply (name : Var → ν) (op : String) (a b : Operand ν α) :
    Except AlgebraError (Operand ν α) :=
  match op with
  | "+" =>
    match a, b with
    | number m, number n => ofScalar (Scalar.add m n)
    | a, b => (add name a b).map expression
  | "-" =>
    match a, b with
    | number m, number n => ofScalar (Scalar.sub m n)
    | a, b => (sub name a b).map expression
  | "*" =>
    match a, b with
    | number m, number n => ofScalar (Scalar.mul m n)
    | number m, b => (scale name (number m) b).map expression
    | a, number n => (scale name (number n) a).map expression
    | _, _ => .error .nonLinearProduct
  | "/" =>
    match a, b with
    | number m, number n => ofScalar (Scalar.div m n)
    | a, number n => (divide name a (number n)).map expression
    | _, _ => .error .nonConstantDivisor
  | op => .error (.unknownOperator op)

end Operand

/-- The value of a tree whose leaves are still to be read. -/
def Tree.evaluateWith {β : Type} (name : Var → ν) (read : β → Except AlgebraError (Operand ν α)) :
    Tree β → Except AlgebraError (Operand ν α)
  | .literal v => read v
  | .leaf v => read v
  | .binary op left right => do
    let a ← left.evaluateWith name read
    let b ← right.evaluateWith name read
    Operand.apply name (op.sign?.getD "") a b

/-- The value of a tree. -/
def Tree.evaluate (name : Var → ν) (t : Tree (Operand ν α)) :
    Except AlgebraError (Operand ν α) := t.evaluateWith name .ok

/-- The value of a tree as an expression. -/
def Tree.toAffine (name : Var → ν) (t : Tree (Operand ν α)) :
    Except AlgebraError (Affine ν α) := do (← t.evaluate name).lift name

end Milp
