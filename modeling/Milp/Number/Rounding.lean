import Milp.Number.Power

/-!
# Fractions and doubles

A finite double is `± m · 2 ^ q` with `m < 2 ^ 53` and `-1074 ≤ q`. Here a fraction of natural
numbers is rounded to the nearest double, a tie going to the even significand, and a double is
taken apart again.
-/

namespace Milp.Double

/-! ### From a fraction to a double -/

/-- The quotient rounded to the nearest natural number, a half to the even one. -/
def roundDiv (num den : Nat) : Nat :=
  let m := num / den
  let r := num % den
  if 2 * r < den then m else if den < 2 * r then m + 1 else m + m % 2

/-- The fraction divided by `2 ^ q`, as a fraction. -/
def unscale (num den : Nat) (q : Int) : Nat × Nat :=
  if 0 ≤ q then (num, den * twoPow q.toNat) else (num * twoPow (-q).toNat, den)

/-- The exponent of the last of the first `count` binary digits of a positive fraction. -/
def digitExponent (count num den : Nat) : Int :=
  let q := (Nat.log2 num : Int) - Nat.log2 den - ((count : Int) - 1)
  let (n, d) := unscale num den q
  if n < d * twoPow (count - 1) then q - 1 else q

/-- The exponent of the last binary digit that a double keeps of a positive fraction. -/
def lastExponent (num den : Nat) : Int := max (-1074) (digitExponent 53 num den)

/-- The bits of infinity. -/
def infinityBits : Nat := 0x7FF * twoPow 52

/-- The bits of the double `m · 2 ^ q`, where `m < 2 ^ 52` only for `q = -1074`; a rounding up to
`m = 2 ^ 53` carries over into the exponent. -/
def packBits (m : Nat) (q : Int) : Nat :=
  min infinityBits (if m < twoPow 52 then m else (q + 1075).toNat * twoPow 52 + (m - twoPow 52))

/-- The bits of the double nearest to a fraction. -/
def ratioBits (num den : Nat) : Nat :=
  if num = 0 then 0
  else
    let q := lastExponent num den
    let (n, d) := unscale num den q
    packBits (roundDiv n d) q

/-- The bit that makes a double negative. -/
def signBit (negative : Bool) : Nat := if negative then twoPow 63 else 0

/-- The double nearest to `± num / den`. -/
def ofRatio (negative : Bool) (num den : Nat) : Float :=
  Float.ofBits (UInt64.ofNat (signBit negative + ratioBits num den))

/-- The double nearest to `± digits · 10 ^ exponent`. Beyond 400 places the result no longer
depends on the digits. -/
def ofDecimal (negative : Bool) (digits : Nat) (exponent : Int) : Float :=
  let size : Int := (Nat.log2 digits : Int) * 30103 / 100000 + exponent
  if digits = 0 ∨ size < -400 then ofRatio negative 0 1
  else if 400 < size then Float.ofBits (UInt64.ofNat (signBit negative + infinityBits))
  else if 0 ≤ exponent then ofRatio negative (digits * tenPow exponent.toNat) 1
  else ofRatio negative digits (tenPow (-exponent).toNat)

/-- The fraction nearest to a fraction among those with `count` binary digits. -/
def roundDigits (count num den : Nat) : Nat × Nat :=
  if num = 0 then (0, 1)
  else
    let q := digitExponent count num den
    let (n, d) := unscale num den q
    let m := roundDiv n d
    if 0 ≤ q then (m * twoPow q.toNat, 1) else (m, twoPow (-q).toNat)

/-- The double nearest to an integer, unless the integer is beyond the doubles. -/
def ofInt? (n : Int) : Option Float :=
  if ratioBits n.natAbs 1 = infinityBits then none else some (ofRatio (n < 0) n.natAbs 1)

/-! ### From a double to a fraction -/

/-- A double taken apart: not a number, an infinity, or `± m · 2 ^ q`. -/
inductive Parts where
  | nan
  | infinite (negative : Bool)
  | finite (negative : Bool) (m : Nat) (q : Int)
  deriving DecidableEq

/-- Takes a double apart. -/
def parts (x : Float) : Parts :=
  let bits := x.toBits.toNat
  let negative := decide (twoPow 63 ≤ bits)
  let exponent : Nat := bits / twoPow 52 % twoPow 11
  let fraction : Nat := bits % twoPow 52
  if exponent = 0x7FF then if fraction = 0 then .infinite negative else .nan
  else if exponent = 0 then .finite negative fraction (-1074)
  else .finite negative (twoPow 52 + fraction) ((exponent : Int) - 1075)

/-- The double and the integer are the same number. -/
def eqInt (x : Float) (n : Int) : Bool :=
  match parts x with
  | .finite negative m q =>
    (m = 0 || negative = decide (n < 0)) &&
      if 0 ≤ q then m * twoPow q.toNat = n.natAbs else m = n.natAbs * twoPow (-q).toNat
  | _ => false

/-- The integer next to a finite double on the way to zero. -/
def truncate? (x : Float) : Option Int :=
  match parts x with
  | .finite negative m q =>
    let n : Nat := if 0 ≤ q then m * twoPow q.toNat else m / twoPow (-q).toNat
    some (if negative then -(n : Int) else n)
  | _ => none

/-- The number of half precision that is nearest to a double; it has eleven binary digits, the last
of which is at least `2 ^ -24`, and is less than `2 ^ 16`. -/
def toHalf (x : Float) : Float :=
  match parts x with
  | .finite negative m q =>
    let last := max (-24) ((Nat.log2 m : Int) + q - 10)
    let (n, d) := unscale m 1 (last - q)
    let k := roundDiv n d
    if twoPow 16 ≤ k * twoPow last.toNat then
      Float.ofBits (UInt64.ofNat (signBit negative + infinityBits))
    else if 0 ≤ last then ofRatio negative (k * twoPow last.toNat) 1
    else ofRatio negative k (twoPow (-last).toNat)
  | _ => x

end Milp.Double
