import Milp.Operand

/-!
# Values of expressions

The constant plus, term by term, the factor times the value that the variable has under its present
name. A value is a number as a rule. It may be a variable or an expression too, and then the sum
becomes an expression.
-/

namespace Milp

/-- Why an expression has no value. -/
inductive EvaluationError where
  /-- The variable has no value under its name; the name is given as a message shows it. -/
  | missing (name : String)
  | algebra (e : AlgebraError)
  deriving DecidableEq, Repr

def EvaluationError.message : EvaluationError → String
  | .missing name => name
  | .algebra e => e.message

def EvaluationError.errorClass : EvaluationError → ErrorClass
  | .missing _ => .key
  | .algebra e => e.errorClass

namespace Affine

variable {ν α : Type} [Name ν] [Scalar α]

/-- Why a sum cannot be extended by a repeated sequence. -/
def sequenceRefusal (sum : Operand ν α) (o : Outsider) (times : Nat) : AlgebraError :=
  let plain := AlgebraError.unsupported "+=" sum.kind.fullName o.kind.fullName
  match sum, o.text? with
  | .number n, some _ =>
    if (Scalar.kind n).isElement then
      .scalar (.noLoop "add" (Scalar.kind n).name ("<U" ++ toString (max 1 (o.size * times))))
    else plain
  | _, _ => plain

/-- Extends a sum by a factor times a value. A sequence may be repeated by an integer, but then it
cannot be added. -/
def extend (name : Var → ν) (sum : Operand ν α) (factor : α) (value : Operand ν α) :
    Except AlgebraError (Operand ν α) := do
  let product : Operand ν α ← match value with
    | .number n => ((Scalar.mul factor n).map .number).mapError .scalar
    | .var _ | .expression _ => (Operand.times name (.number factor) value).map .expression
    | .other o =>
      if o.isSequence then
        match Scalar.integer? factor with
        | some n => .error (sequenceRefusal sum o n.toNat)
        | none => .error (.scalar (.repetition (Scalar.kind factor).fullName))
      else .error (.unsupported "*" (Scalar.kind factor).bareName o.kind.fullName)
  match sum, product with
  | .number m, .number n => return .number (← (Scalar.extend m n).mapError .scalar)
  | sum, product => return .expression (← Operand.plus name sum product)

/-- The value of a name. -/
def valueOf (values : ν → Option (Operand ν α)) (key : ν) :
    Except EvaluationError (Operand ν α) :=
  match Name.unfit? key, values key with
  | some kind, _ => .error (.algebra (.unhashable kind))
  | none, some value => .ok value
  | none, none => .error (.missing (Name.display key))

/-- The value of an expression, where `values` tells the values of the names. -/
def evaluate (name : Var → ν) (values : ν → Option (Operand ν α)) (e : Affine ν α) :
    Except EvaluationError (Operand ν α) :=
  e.linear.terms.foldlM
    (fun sum t => do
      let value ← valueOf values (name t.var)
      (extend name sum t.factor value).mapError .algebra)
    (.number e.constant)

end Affine

end Milp
