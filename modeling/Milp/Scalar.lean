import Milp.ErrorClass
import Milp.Kind

/-!
# Scalars

What the algebra of affine expressions asks of the numbers it calculates with. Addition and its
like may fail, because not every pair of numbers has a common type that holds both of them; over
the rationals they never do.
-/

namespace Milp

/-- An integer in writing. -/
def integerText (n : Int) : String :=
  if n < 0 then "-" ++ toString n.natAbs else toString n.natAbs

/-- Why two scalars cannot be combined or compared. -/
inductive ScalarError where
  | tooLargeForDouble
  | tooLargeForWord
  /-- The integer is beyond the type. -/
  | beyondType (n : Int) (type : String)
  /-- The operation is not defined between values of the two types. -/
  | unsupported (symbol left right : String)
  /-- An array operation found that it is not defined between values of the two types. -/
  | unsupportedElements (symbol left right : String)
  /-- The array operation has no form for elements of the two types. -/
  | noLoop (operation left right : String)
  /-- The array operation has no form for elements of the type. -/
  | noSignedForm (operation type : String)
  /-- Truth values out of arrays have no sign in front of them. -/
  | noPlus
  /-- The array operation has no form for elements of two types, nor for any that they could be
  taken for. -/
  | noCoercion (operation : String)
  /-- Elements of two types cannot be compared; the types are named. -/
  | noOrder (operation left right : String)
  /-- The elements that an array operation results in cannot stand in an array of the second type.
  -/
  | noCast (operation left right : String)
  /-- Nothing but a sequence of the first type can be put after one. -/
  | concatenation (left right : String)
  /-- A list cannot be extended by a value of the type. -/
  | extension (kind : String)
  /-- A sequence cannot be repeated by a number of the type. -/
  | repetition (kind : String)
  /-- The number of repetitions is no size that anything can have. -/
  | tooManyCopies
  /-- A repeated sequence would take too much room. -/
  | noRoom
  /-- A product of two variables or expressions. -/
  | productOfExpressions
  /-- Truth values out of arrays have no difference. -/
  | truthDifference
  /-- What should be a number is a value of the kind. -/
  | notReal (kind : String)
  /-- What should be a number is an array. -/
  | notSingle
  /-- The text writes no number; it is given in quotes. -/
  | badReal (quoted : String)
  /-- An integer has too many digits to be written, or to be read; then their number is given. -/
  | tooManyDigits (count? : Option Nat)
  deriving DecidableEq, Repr

/-- An operation that is not defined between values of two types. -/
def unsupportedText (symbol left right : String) : String :=
  "unsupported operand type(s) for " ++ symbol ++ ": '" ++ left ++ "' and '" ++ right ++ "'"

def ScalarError.message : ScalarError → String
  | .tooLargeForDouble => "int too large to convert to float"
  | .tooLargeForWord => "Python int too large to convert to C long"
  | .unsupported symbol left right => unsupportedText symbol left right
  | .unsupportedElements symbol left right => unsupportedText symbol left right
  | .noLoop operation left right =>
    "ufunc '" ++ operation ++ "' did not contain a loop with signature matching types (dtype('" ++
      left ++ "'), dtype('" ++ right ++ "')) -> None"
  | .noPlus =>
    "ufunc 'positive' did not contain a loop with signature matching types " ++
      "<class 'numpy.dtypes.BoolDType'> -> None"
  | .beyondType n type =>
    "Python integer " ++ integerText n ++ " out of bounds for " ++ type
  | .noSignedForm operation type =>
    "ufunc '" ++ operation ++ "' did not contain a loop with signature matching types dtype('" ++
      type ++ "') -> None"
  | .noCoercion operation =>
    "ufunc '" ++ operation ++ "' not supported for the input types, and the inputs could not be " ++
      "safely coerced to any supported types according to the casting rule ''safe''"
  | .noOrder operation left right =>
    "ufunc '" ++ operation ++ "' did not contain a loop with signature matching types (<class '" ++
      left ++ "'>, <class '" ++ right ++ "'>) -> None"
  | .noCast operation left right =>
    "Cannot cast ufunc '" ++ operation ++ "' output from dtype('" ++ left ++ "') to dtype('" ++
      right ++ "') with casting rule 'same_kind'"
  | .concatenation "bytes" right => "can't concat " ++ right ++ " to bytes"
  | .concatenation left right =>
    "can only concatenate " ++ left ++ " (not \"" ++ right ++ "\") to " ++ left
  | .extension kind => "'" ++ kind ++ "' object is not iterable"
  | .tooManyCopies => "cannot fit 'int' into an index-sized integer"
  | .noRoom => ""
  | .productOfExpressions => "Can only multiply expression by scalar (no quadratic terms)"
  | .repetition kind => "can't multiply sequence by non-int of type '" ++ kind ++ "'"
  | .truthDifference =>
    "numpy boolean subtract, the \x60-\x60 operator, is not supported, use the bitwise_xor, " ++
      "the \x60^\x60 operator, or the logical_xor function instead."
  | .notSingle => "only 0-dimensional arrays can be converted to Python scalars"
  | .notReal kind => "float() argument must be a string or a real number, not '" ++ kind ++ "'"
  | .badReal quoted => "could not convert string to float: " ++ quoted
  | .tooManyDigits count? =>
    "Exceeds the limit (4300 digits) for integer string conversion" ++
      (match count? with
        | some count => ": value has " ++ toString count ++ " digits"
        | none => "") ++
      "; use sys.set_int_max_str_digits() to increase the limit"

def ScalarError.errorClass : ScalarError → ErrorClass
  | .tooLargeForDouble | .tooLargeForWord | .beyondType .. | .tooManyCopies => .overflow
  | .noRoom => .memory
  | .productOfExpressions => .nonLinearProduct
  | .noLoop .. | .noSignedForm .. | .noPlus | .noOrder .. | .noCast .. => .loop
  | .badReal _ | .tooManyDigits _ => .value
  | .unsupported .. | .unsupportedElements .. | .concatenation .. | .extension _ | .repetition _
  | .truthDifference | .notReal _ | .notSingle | .noCoercion _ => .kind

/-- Numbers that an affine expression can have as its factors. -/
class Scalar (α : Type) where
  /-- The exact integer, as a factor of sums and differences. -/
  ofInt : Int → α
  /-- A truth value as a number. -/
  truth : Bool → α
  /-- The number that stands for a missing factor. -/
  zero : α
  /-- The factor of a variable that stands alone. -/
  one : α
  /-- The value of a literal: `± digits / 10 ^ places`. -/
  ofLiteral : (negative : Bool) → (digits places : Nat) → α
  add : α → α → Except ScalarError α
  /-- The sum that takes the place of the first of the two. -/
  extend : α → α → Except ScalarError α := add
  sub : α → α → Except ScalarError α
  mul : α → α → Except ScalarError α
  /-- The quotient; a division by zero has a result too. -/
  div : α → α → Except ScalarError α
  neg : α → α
  /-- The number as a measure: as a bound, a factor or an offset of a message. -/
  measure : α → Except ScalarError α
  /-- The two are the same number, of whatever type each one is. -/
  same : α → α → Except ScalarError Bool
  /-- The integer by which the number can repeat something. -/
  integer? : α → Option Int
  kind : α → Kind
  /-- The number in writing. -/
  plain : α → String
  /-- As `plain`, where a number may have too many digits to be written. -/
  written : α → Except ScalarError String := fun x => .ok (plain x)
  /-- The number in a message that tells its type. -/
  display : α → String

namespace Scalar

variable {α : Type} [Scalar α]

/-- The number is the given integer. -/
def is (x : α) (n : Int) : Bool :=
  match same x (ofInt n) with
  | .ok b => b
  | .error _ => false

/-- The number is zero. -/
def isZero (x : α) : Bool := is x 0

end Scalar

/-- A fraction in writing. -/
def fractionText (q : Rat) : String :=
  if q.den = 1 then integerText q.num else integerText q.num ++ "/" ++ toString q.den

instance : Scalar Rat where
  ofInt n := n
  truth b := if b then 1 else 0
  zero := 0
  one := 1
  ofLiteral negative digits places :=
    let q : Rat := digits / 10 ^ places
    if negative then -q else q
  add x y := .ok (x + y)
  sub x y := .ok (x - y)
  mul x y := .ok (x * y)
  div x y := .ok (x / y)
  neg x := -x
  measure x := .ok x
  same x y := .ok (x = y)
  integer? x := if x.den = 1 then some x.num else none
  kind _ := .plain "Fraction"
  plain := fractionText
  display := fractionText

end Milp
