import Milp.Number.Shortest

/-!
# Fractions with a given number of places

A fraction is written with a fixed number of places after the point, or with an exponent and a fixed
number of places in front of it, or in the shorter of the two ways with a fixed number of digits in
all. The last digit is rounded, a half to the even one.
-/

namespace Milp.Double

/-- The exponent of the first decimal digit of a positive fraction. -/
def firstPlace (num den : Nat) : Int :=
  let e : Int := (digitsOf num).length - (digitsOf den).length
  let isBelow :=
    if 0 ≤ e then num < den * tenPow e.toNat else num * tenPow (-e).toNat < den
  if isBelow then e - 1 else e

/-- The first digits of a fraction, so many of them, and the exponent of the first one. -/
def significant (count num den : Nat) : List Char × Int :=
  if num = 0 then (List.replicate count '0', 0)
  else
    let e := firstPlace num den
    let k : Int := count - 1 - e
    let n := if 0 ≤ k then roundDiv (num * tenPow k.toNat) den
      else roundDiv num (den * tenPow (-k).toNat)
    if n < tenPow count then (digitsOf n, e) else (digitsOf (n / 10), e + 1)

/-- Digits with a point in front of the last ones of them. Where none follow it, the point is left
out unless it is to be kept. -/
def pointed (keepsPoint : Bool) (places : Nat) (ds : List Char) : List Char :=
  let (front, back) := ds.splitAt (ds.length - places)
  if back.isEmpty && !keepsPoint then front else front ++ '.' :: back

/-- A fraction with so many places after the point. -/
def withPlaces (keepsPoint : Bool) (places num den : Nat) : List Char :=
  let ds := digitsOf (roundDiv (num * tenPow places) den)
  pointed keepsPoint places (List.replicate (places + 1 - ds.length) '0' ++ ds)

/-- An exponent of at least two digits. -/
def exponentText (e : Int) : List Char :=
  let ds := digitsOf e.natAbs
  ['e', if e < 0 then '-' else '+'] ++ List.replicate (2 - ds.length) '0' ++ ds

/-- A fraction with an exponent and so many places in front of it. -/
def withExponent (keepsPoint : Bool) (places num den : Nat) : List Char :=
  let (ds, e) := significant (places + 1) num den
  pointed keepsPoint places ds ++ exponentText e

/-- A fraction with so many digits. Zeros at the end are left out unless the point is to be kept.
Where a place is asked for in any case, one of the digits stands after the point, or else there is an
exponent. -/
def withDigits (keepsPoint hasPlace : Bool) (count num den : Nat) : List Char :=
  let count := max 1 count
  let (ds, e) := significant count num den
  let trimmed := fun ds : List Char =>
    if keepsPoint then ds else ds.take 1 ++ (stripZeros (ds.drop 1)).1
  if -4 ≤ e ∧ e + (if hasPlace then 1 else 0) < count then
    let written := withPlaces true (count - 1 - e).toNat num den
    if keepsPoint then written
    else
      let kept := (stripZeros written).1
      if kept.getLast? ≠ some '.' then kept
      else if hasPlace then kept ++ ['0'] else kept.dropLast
  else
    let ds := trimmed ds
    pointed keepsPoint (ds.length - 1) ds ++ exponentText e

end Milp.Double
