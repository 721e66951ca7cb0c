import Milp.Number.Bits
import Milp.Number.Remainder

/-!
# Calculating with plain numbers

The operations on plain integers and doubles that are refused where they have no result, as a
division by zero is. Integers stay exact as long as they can, and the operations on bits are for
integers alone.
-/

namespace Milp

/-- An operation on two plain numbers. -/
inductive Calculation where
  | sum
  | difference
  | product
  | quotient
  /-- The quotient rounded down. -/
  | wholeQuotient
  /-- What remains beside the quotient rounded down. -/
  | remainder
  /-- The quotient rounded down, and what remains. -/
  | division
  | power
  | bothBits
  | eitherBit
  | differentBits
  | shiftUp
  | shiftDown
  deriving DecidableEq, Repr

/-- Why a calculation with plain numbers has no result. -/
inductive CalculationError where
  /-- Something is divided by zero; the operation is told in words of its own. -/
  | byZero (operation : String)
  /-- The quotient of two integers is beyond the doubles. -/
  | quotientTooLarge
  | powerTooLarge
  /-- The base of a power is zero and its exponent is negative. -/
  | zeroBase
  | zeroModulus
  | notInvertible
  /-- A modulus comes with numbers that are no integers. -/
  | strayModulus
  | negativeShift
  /-- The integer would have more digits than can be counted. -/
  | tooManyDigits
  | noRoom
  | roundedTooLarge
  /-- The number is infinite, or none at all, and cannot become what is named. -/
  | notFinite (isNan : Bool) (kind : String) (target : String)
  | badHexadecimal
  | hexadecimalTooLarge
  | negativeBytes
  | tooFewBytes
  | scalar (e : ScalarError)
  deriving DecidableEq, Repr

namespace CalculationError

def message : CalculationError → String
  | byZero operation => operation
  | quotientTooLarge => "integer division result too large for a float"
  | powerTooLarge => "(34, 'Numerical result out of range')"
  | zeroBase => "0.0 cannot be raised to a negative power"
  | zeroModulus => "pow() 3rd argument cannot be 0"
  | notInvertible => "base is not invertible for the given modulus"
  | strayModulus => "pow() 3rd argument not allowed unless all arguments are integers"
  | negativeShift => "negative shift count"
  | tooManyDigits => "too many digits in integer"
  | noRoom => ""
  | roundedTooLarge => "rounded value too large to represent"
  | notFinite isNan kind target =>
    "cannot convert " ++ kind ++ (if isNan then "NaN" else if kind = "" then "Infinity"
      else "infinity") ++ " to " ++ target
  | badHexadecimal => "invalid hexadecimal floating-point string"
  | hexadecimalTooLarge => "hexadecimal value too large to represent as a float"
  | negativeBytes => "can't convert negative int to unsigned"
  | tooFewBytes => "int too big to convert"
  | scalar e => e.message

def errorClass : CalculationError → ErrorClass
  | byZero _ | zeroBase => .division
  | quotientTooLarge | powerTooLarge | tooManyDigits | roundedTooLarge | hexadecimalTooLarge
  | negativeBytes | tooFewBytes => .overflow
  | notFinite isNan .. => if isNan then .value else .overflow
  | zeroModulus | notInvertible | negativeShift | badHexadecimal => .value
  | strayModulus => .kind
  | noRoom => .memory
  | scalar e => e.errorClass

end CalculationError

/-- What a calculation with plain numbers results in. -/
inductive Calculated where
  | number (n : Number)
  | pair (m n : Number)
  /-- A complex number, of which no more is known. -/
  | complex

/-! ### Integers -/

namespace Calculation

/-- How many binary digits an integer may have in the end. -/
def roomForDigits : Nat := twoPow 33

/-- The quotient of two integers as the nearest double. -/
def divide (m n : Int) : Except CalculationError Number :=
  if n = 0 then .error (.byZero "division by zero")
  else
    let x := Double.ofRatio (decide (m < 0) != decide (n < 0)) m.natAbs n.natAbs
    if x.isInf then .error .quotientTooLarge else .ok (.double x)

/-- A natural number to a power, modulo another one. The fuel is used up by one for every binary
digit of the exponent. -/
def powMod (modulus : Nat) : (fuel : Nat) → (base exponent : Nat) → Nat
  | 0, _, _ => 1 % modulus
  | fuel + 1, base, exponent =>
    if exponent = 0 then 1 % modulus
    else
      let half := powMod modulus fuel (base * base % modulus) (exponent / 2)
      if exponent % 2 = 1 then base * half % modulus else half

/-- What an integer has to be multiplied with to leave one modulo another one, if there is such an
integer. The fuel is used up by one for every step of the division with remainders. -/
def inverse? (modulus : Nat) : (fuel : Nat) → (r s : Nat) → (x y : Int) → Option Nat
  | 0, _, _, _, _ => none
  | fuel + 1, r, s, x, y =>
    if s = 0 then if r = 1 then some (x % modulus).toNat else none
    else inverse? modulus fuel s (r % s) y (x - (r / s : Nat) * y)

/-- An integer to the power of another one, modulo a third one. The result has the sign of the
modulus. -/
def powerModulo (base exponent modulus : Int) : Except CalculationError Int := do
  if modulus = 0 then throw .zeroModulus
  let m := modulus.natAbs
  if m = 1 then return 0
  let base := (base % m).toNat
  let steps := 2 * Bits.length modulus + 2
  let base ← if 0 ≤ exponent then pure base
    else match inverse? m steps base m 1 0 with
      | some b => pure b
      | none => throw .notInvertible
  let r : Int := powMod m (Bits.length exponent) base exponent.natAbs
  return if modulus < 0 ∧ r ≠ 0 then r + modulus else r

/-- An integer to the power of one that is not negative. -/
def powerOf (base : Int) (exponent : Nat) : Except CalculationError Int :=
  if base.natAbs < 2 then .ok (if exponent = 0 then 1 else if base = -1 ∧ exponent % 2 = 0 then 1
    else base)
  else if roomForDigits < exponent * Bits.length base then .error .noRoom
  else .ok (Int.pow base exponent)

/-- An integer with so many more binary digits, which are zeros. -/
def shift (m n : Int) : Except CalculationError Int :=
  if n < 0 then .error .negativeShift
  else if m = 0 then .ok 0
  else if 60 * twoPow 60 ≤ n.toNat then .error .tooManyDigits
  else if roomForDigits < n.toNat then .error .noRoom
  else .ok (m * twoPow n.toNat)

/-! ### Doubles -/

/-- A double to the power of another one. A negative number has a power that is no double, unless
the exponent is integral. -/
def raise (x y : Float) : Except CalculationError Calculated :=
  if x == 0 && y < 0 then .error .zeroBase
  else if x < 0 && x.isFinite && y.isFinite && y.floor != y then .ok .complex
  else
    let z := Float.pow x y
    if z.isInf && x.isFinite && y.isFinite then .error .powerTooLarge else .ok (.number (.double z))

/-- An operation on doubles. There is none on their bits. -/
def onDoubles (c : Calculation) (x y : Float) : Except CalculationError (Option Calculated) :=
  let number := fun z : Float => .ok (some (.number (.double z)))
  let unlessZero := fun (operation : String) (r : Calculated) =>
    if y == 0 then .error (.byZero operation) else .ok (some r)
  match c with
  | sum => number (x + y)
  | difference => number (x - y)
  | product => number (x * y)
  | quotient => unlessZero "float division by zero" (.number (.double (x / y)))
  | wholeQuotient => unlessZero "float floor division by zero" (.number (.double (Double.floorDiv x y)))
  | remainder => unlessZero "float modulo" (.number (.double (Double.floorMod x y)))
  | division =>
    unlessZero "float divmod()" (.pair (.double (Double.floorDiv x y)) (.double (Double.floorMod x y)))
  | power => some <$> raise x y
  | bothBits | eitherBit | differentBits | shiftUp | shiftDown => .ok none

/-- An operation on integers. -/
def onIntegers (c : Calculation) (m n : Int) : Except CalculationError Calculated :=
  let number := fun k : Int => .ok (.number (.whole k))
  let unlessZero := fun (operation : String) (r : Calculated) =>
    if n = 0 then .error (.byZero operation) else .ok r
  let byZero := "integer division or modulo by zero"
  match c with
  | sum => number (m + n)
  | difference => number (m - n)
  | product => number (m * n)
  | quotient => .number <$> divide m n
  | wholeQuotient => unlessZero byZero (.number (.whole (Int.fdiv m n)))
  | remainder => unlessZero "integer modulo by zero" (.number (.whole (Int.fmod m n)))
  | division => unlessZero byZero (.pair (.whole (Int.fdiv m n)) (.whole (Int.fmod m n)))
  | power => do
    if 0 ≤ n then return .number (.whole (← powerOf m n.toNat))
    let x ← (Number.whole m).toDouble.mapError .scalar
    let y ← (Number.whole n).toDouble.mapError .scalar
    raise x y
  | bothBits => number (Bits.both m n)
  | eitherBit => number (Bits.either m n)
  | differentBits => number (Bits.different m n)
  | shiftUp => do return .number (.whole (← shift m n))
  | shiftDown => if n < 0 then .error .negativeShift else number (Bits.dropLast m n.toNat)

/-- An operation on two truth values is about single bits, and a truth value is its result. -/
def onTruth? (c : Calculation) (x y : Bool) : Option Bool :=
  match c with
  | bothBits => some (x && y)
  | eitherBit => some (x || y)
  | differentBits => some (x != y)
  | _ => none

/-- An operation on two numbers, which are taken as plain ones; there may be none. -/
def run (c : Calculation) (a b : Number) : Except CalculationError (Option Calculated) :=
  match a, b with
  | .truth x, .truth y =>
    match c.onTruth? x y with
    | some z => .ok (some (.number (.truth z)))
    | none => some <$> c.onIntegers (if x then 1 else 0) (if y then 1 else 0)
  | a, b =>
    match a.integer?, b.integer? with
    | some m, some n => some <$> c.onIntegers m n
    | _, _ => do
      c.onDoubles (← a.toDouble.mapError .scalar) (← b.toDouble.mapError .scalar)

end Calculation

/-- A number takes another one into its operations: an integer takes plain integers, and a double
also doubles. -/
def Number.takes (self other : Number) : Bool :=
  match self, other with
  | whole _, whole _ | whole _, truth _ | truth _, whole _ | truth _, truth _ => true
  | double _, word _ => false
  | double _, _ => true
  | _, _ => false

/-! ### Rounding -/

namespace Double

/-- The name of doubles in a message. -/
def kindName : String := "float "

/-- A finite double as a fraction, with its sign. -/
def ratioOf? (x : Float) : Option (Bool × Nat × Nat) :=
  match parts x with
  | .finite negative m q =>
    some (if 0 ≤ q then (negative, m * twoPow q.toNat, 1) else (negative, m, twoPow (-q).toNat))
  | _ => none

/-- A finite double as a fraction, or why it is none. -/
def ratio (kind target : String) (x : Float) : Except CalculationError (Bool × Nat × Nat) :=
  match ratioOf? x with
  | some r => .ok r
  | none => .error (.notFinite x.isNaN kind target)

/-- The lowest terms of a finite double. -/
def lowestTerms (x : Float) : Except CalculationError (Int × Nat) := do
  let (negative, m, n) ← ratio "" "integer ratio" x
  let d := Nat.gcd m n
  return (if negative then -(m / d : Nat) else (m / d : Nat), n / d)

/-- How a fraction becomes an integer. -/
inductive Direction where
  | down
  | up
  | towardZero
  /-- To the nearest integer, a half to the even one. -/
  | nearest

/-- An integer next to a finite double. -/
def toInteger (d : Direction) (x : Float) : Except CalculationError Int := do
  let (negative, m, n) ← ratio kindName "integer" x
  let signed : Int := if negative then -(m : Int) else m
  return match d with
    | .down => Int.fdiv signed n
    | .up => -(Int.fdiv (-signed) n)
    | .towardZero => Int.tdiv signed n
    | .nearest => if negative then -(roundDiv m n : Int) else roundDiv m n

/-- A double rounded to so many decimal places. -/
def roundPlaces (places : Int) (x : Float) : Except CalculationError Float :=
  match ratioOf? x with
  | none => .ok x
  | some (negative, m, n) =>
    if 323 < places then .ok x
    else if places < -308 then .ok (ofRatio negative 0 1)
    else
      let r := if 0 ≤ places then ofRatio negative (roundDiv (m * tenPow places.toNat) n)
          (tenPow places.toNat)
        else ofRatio negative (roundDiv m (n * tenPow (-places).toNat) * tenPow (-places).toNat) 1
      if r.isInf then .error .roundedTooLarge else .ok r

end Double

/-- An integer rounded to so many decimal places, a half to the even multiple. -/
def roundPlaces (places n : Int) : Int :=
  let zeros := (-places).toNat
  if 0 ≤ places then n
  else if (toString n.natAbs).length < zeros then 0
  else
    let r : Int := Double.roundDiv n.natAbs (tenPow zeros) * tenPow zeros
    if n < 0 then -r else r

/-! ### Keys of numbers -/

/-- The modulus of the hash of a number. -/
def hashModulus : Nat := twoPow 61 - 1

/-- The hash of a fraction: the remainder of its quotient modulo a prime number. The value that is
kept for errors is left out. -/
def hashRatio (negative : Bool) (m n : Nat) : Int :=
  let bits := Bits.length hashModulus
  let inverse := Calculation.powMod hashModulus bits (n % hashModulus) (hashModulus - 2)
  let h : Int := m % hashModulus * inverse % hashModulus
  let h := if negative then -h else h
  if h = -1 then -2 else h

/-- The hash of a number, if it is one. -/
def Number.hash? (a : Number) : Option Int :=
  match a with
  | .double x | .cell x =>
    match Double.parts x with
    | .nan => none
    | .infinite negative => some (if negative then -314159 else 314159)
    | .finite .. => (Double.ratioOf? x).map fun r => hashRatio r.1 r.2.1 r.2.2
  | a => a.integer?.map fun n => hashRatio (n < 0) n.natAbs 1

end Milp
