import Milp.Affine

/-!
# Operands

The algebra accepts numbers, variables and expressions alike: a number is lifted to a constant
expression, a variable to the expression of itself, an expression stays what it is. All else is
refused. Beside the combinators, which lift whatever they are given, stand the operators, which
refuse an operand of the wrong kind on their own terms.
-/

namespace Milp

/-- What stands in the place of an operand and is none. -/
structure Outsider where
  kind : Kind
  /-- The text that it is. -/
  text? : Option String
  /-- It has items in order, so that it can be repeated. -/
  isSequence : Bool
  /-- The number of its items. -/
  size : Nat
  deriving DecidableEq, Repr

/-- What an operation is applied to. -/
inductive Operand (ν α : Type) [BEq ν] where
  | number (n : α)
  | var (x : Var)
  | expression (e : Affine ν α)
  | other (o : Outsider)

/-- Why an operation has no result. -/
inductive AlgebraError where
  | notAnOperand (kind : String)
  | notACoefficient (kind : String)
  /-- A product of two operands neither of which is a number. -/
  | nonLinearProduct
  /-- A quotient by an operand that is not a number. -/
  | nonConstantDivisor
  /-- The operator `*` between two variables or expressions. -/
  | productOfExpressions
  /-- The operator `/` between two variables or expressions. -/
  | quotientOfExpressions
  /-- The operator `/` of a number by a variable or an expression. -/
  | numberOverExpression
  /-- The operator is not defined between operands of these kinds. -/
  | unsupported (symbol left right : String)
  /-- The comparison is not defined between operands of these kinds. -/
  | incomparable (symbol left right : String)
  /-- The sign is not defined for an operand of the kind. -/
  | unsigned (symbol kind : String)
  | unknownOperator (symbol : String)
  | unknownComparator (display : String)
  /-- What was to be evaluated is no tree. -/
  | notATree (display : String)
  /-- Nothing can be filed under a name of the kind. -/
  | unhashable (kind : String)
  | name (e : NameError)
  | scalar (e : ScalarError)
  deriving DecidableEq, Repr

def AlgebraError.message : AlgebraError → String
  | .notAnOperand kind => "Expected a number, Variable or Expression, got " ++ kind
  | .notACoefficient kind => "Coefficient must be a number, got " ++ kind
  | .nonLinearProduct => "Multiplication is only supported between an expression and a number."
  | .nonConstantDivisor => "Division is only supported by a number."
  | .productOfExpressions => ScalarError.productOfExpressions.message
  | .quotientOfExpressions => "Can only divide expression by scalar"
  | .numberOverExpression => "Can only divide by scalar"
  | .unsupported symbol left right => unsupportedText symbol left right
  | .incomparable symbol left right =>
    "'" ++ symbol ++ "' not supported between instances of '" ++ left ++ "' and '" ++ right ++ "'"
  | .unsigned symbol kind => "bad operand type for unary " ++ symbol ++ ": '" ++ kind ++ "'"
  | .unknownOperator symbol => "Unknown operator: " ++ symbol
  | .unknownComparator display =>
    "Unknown comparator " ++ display ++ ", expected one of '<=', '==', '>='"
  | .notATree display => "Cannot evaluate " ++ display
  | .unhashable kind => "unhashable type: '" ++ kind ++ "'"
  | .name e => e.message
  | .scalar e => e.message

def AlgebraError.errorClass : AlgebraError → ErrorClass
  | .nonLinearProduct | .productOfExpressions => .nonLinearProduct
  | .nonConstantDivisor | .quotientOfExpressions | .numberOverExpression => .nonConstantDivisor
  | .unknownOperator _ | .unknownComparator _ => .value
  | .notAnOperand _ | .notACoefficient _ | .unsupported .. | .incomparable .. | .unsigned ..
  | .notATree _ | .unhashable _ => .kind
  | .name e => e.errorClass
  | .scalar e => e.errorClass

namespace Operand

variable {ν α : Type}

section Kind

variable [BEq ν]

def isNumber : Operand ν α → Bool
  | number _ => true
  | _ => false

/-- The operand is a variable or an expression. -/
def isAffine : Operand ν α → Bool
  | var _ | expression _ => true
  | _ => false

variable [Scalar α]

/-- The kind of an operand. -/
def kind : Operand ν α → Kind
  | number n => Scalar.kind n
  | var _ => .plain "Variable"
  | expression _ => .plain "Expression"
  | other o => o.kind

end Kind

variable [Name ν] [Scalar α]

/-- The operand as an expression. -/
def lift (name : Var → ν) : Operand ν α → Except AlgebraError (Affine ν α)
  | number n => .ok (.ofNumber n)
  | var x =>
    match Name.unfit? (name x) with
    | none => .ok (.ofVar name x)
    | some kind => .error (.unhashable kind)
  | expression e => .ok e
  | other o => .error (.notAnOperand o.kind.name)

/-! ### Combinators -/

/-- `base + k * other`. The coefficient is looked at first. -/
def addScaled (name : Var → ν) (base k other : Operand ν α) :
    Except AlgebraError (Affine ν α) :=
  match k with
  | number k => do
    let base ← base.lift name
    let other ← other.lift name
    (base.addScaled k other).mapError .scalar
  | k => .error (.notACoefficient k.kind.name)

/-- The exact integer as an operand. -/
def ofInt (n : Int) : Operand ν α := number (Scalar.ofInt n)

def add (name : Var → ν) (a b : Operand ν α) : Except AlgebraError (Affine ν α) :=
  addScaled name a (ofInt 1) b

def sub (name : Var → ν) (a b : Operand ν α) : Except AlgebraError (Affine ν α) :=
  addScaled name a (ofInt (-1)) b

def neg (name : Var → ν) (a : Operand ν α) : Except AlgebraError (Affine ν α) :=
  addScaled name (ofInt 0) (ofInt (-1)) a

def scale (name : Var → ν) (k a : Operand ν α) : Except AlgebraError (Affine ν α) :=
  addScaled name (ofInt 0) k a

/-- The reciprocal is taken of the divisor, and of nothing but a number. -/
def divide (name : Var → ν) (a k : Operand ν α) : Except AlgebraError (Affine ν α) :=
  match k with
  | number k => do
    let reciprocal ← (Scalar.div Scalar.one k).mapError .scalar
    addScaled name (ofInt 0) (number reciprocal) a
  | _ => .error .nonConstantDivisor

/-! ### Operators -/

/-- One of the two is a variable or an expression, and the other one that or a number. -/
def meets (a b : Operand ν α) : Bool :=
  a.isAffine && (b.isNumber || b.isAffine) || a.isNumber && b.isAffine

/-- The operator is not defined between the two. -/
def refusal (symbol : String) (a b : Operand ν α) : AlgebraError :=
  .unsupported symbol a.kind.fullName b.kind.fullName

def plus (name : Var → ν) (a b : Operand ν α) : Except AlgebraError (Affine ν α) :=
  if meets a b then add name a b else .error (refusal "+" a b)

def minus (name : Var → ν) (a b : Operand ν α) : Except AlgebraError (Affine ν α) :=
  if meets a b then sub name a b else .error (refusal "-" a b)

def times (name : Var → ν) (a b : Operand ν α) : Except AlgebraError (Affine ν α) :=
  if a.isAffine && b.isNumber then scale name b a
  else if a.isAffine && b.isAffine then .error .productOfExpressions
  else if a.isNumber && b.isAffine then scale name a b
  else .error (refusal "*" a b)

def dividedBy (name : Var → ν) (a b : Operand ν α) : Except AlgebraError (Affine ν α) :=
  if a.isAffine && b.isNumber then divide name a b
  else if a.isAffine && b.isAffine then .error .quotientOfExpressions
  else if a.isNumber && b.isAffine then .error .numberOverExpression
  else .error (refusal "/" a b)

/-- The sign `-` in front of a variable or an expression. -/
def negated (name : Var → ν) (a : Operand ν α) : Except AlgebraError (Affine ν α) :=
  if a.isAffine then neg name a else .error (.unsigned "-" a.kind.fullName)

/-- The sign `+` in front of a variable or an expression. -/
def unchanged (name : Var → ν) (a : Operand ν α) : Except AlgebraError (Affine ν α) :=
  if a.isAffine then a.lift name else .error (.unsigned "+" a.kind.fullName)

end Operand

end Milp
