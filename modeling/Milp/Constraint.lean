import Milp.Operand

/-!
# Constraints

A comparison of two sides is kept in normal form, as an expression that is at most zero, or equal to
zero.
-/

namespace Milp

/-- How the two sides of a constraint compare. -/
inductive Sense where
  | le
  | eq
  | ge
  deriving DecidableEq, Repr

def Sense.ofText? : String → Option Sense
  | "<=" => some .le
  | "==" => some .eq
  | ">=" => some .ge
  | _ => none

def Sense.text : Sense → String
  | .le => "<="
  | .eq => "=="
  | .ge => ">="

/-- The expression is at most zero, or equal to zero. -/
structure Constraint (ν α : Type) [BEq ν] where
  expression : Affine ν α
  isEquality : Bool

namespace Constraint

variable {ν α : Type} [Name ν] [Scalar α]

/-- Brings everything to one side: for `>=` the right one, for the others the left one. -/
def compare (name : Var → ν) (left : Operand ν α) (sense : Sense) (right : Operand ν α) :
    Except AlgebraError (Constraint ν α) := do
  let expression ← match sense with
    | .ge => Operand.sub name right left
    | _ => Operand.sub name left right
  return ⟨expression, sense == .eq⟩

/-- The comparison operators `<=` and `>=`. -/
def ofOperator (name : Var → ν) (left : Operand ν α) (sense : Sense) (right : Operand ν α) :
    Except AlgebraError (Constraint ν α) :=
  if Operand.meets left right then compare name left sense right
  else .error (.incomparable sense.text left.kind.fullName right.kind.fullName)

end Constraint

end Milp
