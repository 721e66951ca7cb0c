import Milp.Number.Shortest
import Milp.Number.Reading
import Milp.Scalar

/-!
# Numbers

The numbers of a model: integers of any size, truth values that count as zero and one, doubles, and
the two kinds of numbers that come out of numeric arrays, 64-bit words and cells. The type of a
result follows from the types of the operands alone. Exact integers stay exact among themselves, a
word takes integers in and wraps around, anything else is calculated in doubles.
-/

namespace Milp

inductive Number where
  /-- An integer of any size. -/
  | whole (n : Int)
  /-- A truth value, which counts as zero or one. -/
  | truth (b : Bool)
  | double (x : Float)
  /-- A double out of a numeric array. -/
  | cell (x : Float)
  /-- A 64-bit integer out of a numeric array. -/
  | word (n : Int64)

namespace Number

/-! ### Types and conversions -/

/-- The integer that an integral number is. -/
def integer? : Number → Option Int
  | whole n => some n
  | truth b => some (if b then 1 else 0)
  | word n => some n.toInt
  | double _ | cell _ => none

/-- The number comes out of a numeric array. -/
def isElement : Number → Bool
  | cell _ | word _ => true
  | _ => false

def isWord : Number → Bool
  | word _ => true
  | _ => false

def kind : Number → Kind
  | whole _ => .plain "int"
  | truth _ => .plain "bool"
  | double _ => .plain "float"
  | cell _ => .element "float64" "float"
  | word _ => .element "int64" "int"

/-- The nearest double. -/
def toDouble (a : Number) : Except ScalarError Float :=
  match a with
  | double x | cell x => .ok x
  | whole n =>
    match Double.ofInt? n with
    | some x => .ok x
    | none => .error .tooLargeForDouble
  | truth b => .ok (if b then 1 else 0)
  | word n => .ok (Double.ofRatio (n.toInt < 0) n.toInt.natAbs 1)

/-- The integer as a word, unless it needs more than 64 bits. -/
def wordOfInt (n : Int) : Except ScalarError Int64 :=
  if -twoPow 63 ≤ n ∧ n < twoPow 63 then .ok (Int64.ofInt n) else .error .tooLargeForWord

/-! ### Arithmetic -/

/-- One operation in its three forms. -/
structure Operation where
  exact : Int → Int → Int
  wrapping : Int64 → Int64 → Int64
  rounded : Float → Float → Float

/-- Carries an operation out in the type that the two operands share. -/
def combine (op : Operation) (a b : Number) : Except ScalarError Number :=
  match a.integer?, b.integer? with
  | some m, some n =>
    if a.isWord || b.isWord then do return word (op.wrapping (← wordOfInt m) (← wordOfInt n))
    else .ok (whole (op.exact m n))
  | _, _ => do
    let z := op.rounded (← a.toDouble) (← b.toDouble)
    return if a.isElement || b.isElement then cell z else double z

def add : Number → Number → Except ScalarError Number :=
  combine ⟨(· + ·), (· + ·), (· + ·)⟩

def sub : Number → Number → Except ScalarError Number :=
  combine ⟨(· - ·), (· - ·), (· - ·)⟩

def mul : Number → Number → Except ScalarError Number :=
  combine ⟨(· * ·), (· * ·), (· * ·)⟩

/-- The quotient of doubles: infinite or not a number when the divisor is zero. -/
def div (a b : Number) : Except ScalarError Number := do
  return double ((← a.toDouble) / (← b.toDouble))

def neg : Number → Number
  | whole n => whole (-n)
  | truth b => whole (if b then -1 else 0)
  | double x => double (-x)
  | cell x => cell (-x)
  | word n => word (-n)

/-- The number in an operation that does nothing to it. -/
def plus : Number → Number
  | truth b => whole (if b then 1 else 0)
  | a => a

/-- The two are the same number. Integers are compared exactly, and so is an integer beside a plain
double; all else is compared after it has been rounded to doubles. -/
def same (a b : Number) : Except ScalarError Bool :=
  match a.integer?, b.integer?, a, b with
  | some m, some n, _, _ => .ok (m = n)
  | some m, none, whole _, double y | some m, none, truth _, double y => .ok (Double.eqInt y m)
  | none, some n, double x, whole _ | none, some n, double x, truth _ => .ok (Double.eqInt x n)
  | _, _, a, b => do return (← a.toDouble) == (← b.toDouble)

/-! ### Writing -/

/-- A truth value in writing. -/
def truthText (b : Bool) : String := if b then "True" else "False"

/-- The plain form of a number. -/
def text : Number → String
  | whole n => integerText n
  | truth b => truthText b
  | double x | cell x => Double.text x
  | word n => integerText n.toInt

/-- The greatest number of digits of an integer that can be written or read. -/
def maxDigits : Nat := 4300

/-- As `text`, where an integer must not have too many digits. -/
def writtenOut (a : Number) : Except ScalarError String :=
  match a with
  | whole n =>
    if 3 * maxDigits < Nat.log2 n.natAbs && tenPow maxDigits ≤ n.natAbs then
      .error (.tooManyDigits none)
    else .ok a.text
  | a => .ok a.text

/-- The form that tells the numbers out of arrays from the others. -/
def display : Number → String
  | cell x => "np.float64(" ++ Double.text x ++ ")"
  | word n => "np.int64(" ++ integerText n.toInt ++ ")"
  | a => a.text

end Number

instance : Scalar Number where
  ofInt := .whole
  truth := .truth
  zero := .double 0
  one := .double 1
  ofLiteral negative digits places := .double (Double.ofDecimal negative digits (-places))
  add := Number.add
  sub := Number.sub
  mul := Number.mul
  div := Number.div
  neg := Number.neg
  measure a := do return .double (← a.toDouble)
  same := Number.same
  integer? := Number.integer?
  kind := Number.kind
  plain := Number.text
  written := Number.writtenOut
  display := Number.display

end Milp
