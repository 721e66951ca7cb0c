import Milp.Number.Rounding

/-!
# The shortest decimal of a double

A double is written with the fewest digits that read back as the same double; of the decimals with
that many digits, the nearest one. For each number of digits only the two neighbours of the double
on that decimal grid have to be tried.
-/

namespace Milp.Double

/-- A positive double as a fraction, with the fractions between which all numbers round to it. The
ends round to it when its significand is even. -/
structure Neighbourhood where
  value : Nat
  low : Nat
  high : Nat
  den : Nat
  closed : Bool

/-- The numbers that round to `m · 2 ^ q`. Below a power of two the doubles lie half as far
apart. -/
def neighbourhood (m : Nat) (q : Int) : Neighbourhood :=
  let below := if m = twoPow 52 ∧ q ≠ -1074 then 1 else 2
  let unit := if 2 ≤ q then twoPow (q - 2).toNat else 1
  { value := 4 * m * unit, low := (4 * m - below) * unit, high := (4 * m + 2) * unit
    den := if 2 ≤ q then 1 else twoPow (2 - q).toNat, closed := m % 2 = 0 }

/-- The value as a fraction of `10 ^ k`. -/
def Neighbourhood.inTens (v : Neighbourhood) (k : Int) : Nat × Nat :=
  if 0 ≤ k then (v.value, v.den * tenPow k.toNat) else (v.value * tenPow (-k).toNat, v.den)

/-- The decimal `d · 10 ^ k` rounds to the double. -/
def Neighbourhood.holds (v : Neighbourhood) (d : Nat) (k : Int) : Bool :=
  let n := if 0 ≤ k then d * tenPow k.toNat * v.den else d * v.den
  let scale := if 0 ≤ k then 1 else tenPow (-k).toNat
  if v.closed then v.low * scale ≤ n && n ≤ v.high * scale
  else v.low * scale < n && n < v.high * scale

/-- The least power of ten above the value. -/
def Neighbourhood.exponent (v : Neighbourhood) : Int :=
  let guess := ((Nat.log2 v.value : Int) - Nat.log2 v.den) * 30103 / 100000 - 2
  let above := fun i : Nat =>
    let (n, d) := v.inTens (guess + i)
    decide (n < d)
  guess + ((List.range 6).find? above).getD 6

/-- The decimal nearest to the value among those that end at the place `k` and round to the
double; of two equally near ones the even one. -/
def Neighbourhood.onGrid? (v : Neighbourhood) (k : Int) : Option Nat :=
  let (n, d) := v.inTens k
  let a := n / d
  let r := n % d
  let nearer := if 2 * r < d then a else if d < 2 * r then a + 1 else a + a % 2
  let other := if nearer = a then a + 1 else a
  if v.holds nearer k then some nearer else if v.holds other k then some other else none

/-- The shortest decimal, as digits and a power of ten. Seventeen digits always suffice. -/
def shortest (m : Nat) (q : Int) : Nat × Int :=
  let v := neighbourhood m q
  let e := v.exponent
  let onGridAt? := fun i : Nat => (v.onGrid? (e - (i + 1))).map fun d => (d, e - ((i : Int) + 1))
  ((List.range 17).findSome? onGridAt?).getD (0, 0)

/-! ### Written forms -/

/-- The decimal digits of a number. -/
def digitsOf (n : Nat) : List Char := Nat.toDigits 10 n

/-- A number's digits without the zeros at the end, and how many there were. -/
def stripZeros (ds : List Char) : List Char × Nat :=
  let kept := ds.reverse.dropWhile (· == '0')
  (kept.reverse, ds.length - kept.length)

/-- A positive decimal in writing: positional from `10 ^ -4` to below `10 ^ 16`, with at least one
digit on each side of the point, and otherwise with an exponent of at least two digits. -/
def writeDecimal (d : Nat) (k : Int) : List Char :=
  let (ds, dropped) := stripZeros (digitsOf d)
  let k := k + dropped
  let e := k + ds.length - 1
  if -4 ≤ e ∧ e < 16 then
    if 0 ≤ k then ds ++ List.replicate k.toNat '0' ++ ['.', '0']
    else if 0 ≤ e then ds.take (e + 1).toNat ++ '.' :: ds.drop (e + 1).toNat
    else ['0', '.'] ++ List.replicate (-e - 1).toNat '0' ++ ds
  else
    let mantissa := if ds.length = 1 then ds else ds.take 1 ++ '.' :: ds.drop 1
    let exponent := digitsOf e.natAbs
    let padded := if exponent.length < 2 then '0' :: exponent else exponent
    mantissa ++ ['e', if e < 0 then '-' else '+'] ++ padded

/-- A double in writing. -/
def text (x : Float) : String :=
  match parts x with
  | .nan => "nan"
  | .infinite negative => if negative then "-inf" else "inf"
  | .finite negative m q =>
    let body := if m = 0 then ['0', '.', '0'] else
      let (d, k) := shortest m q
      writeDecimal d k
    String.ofList (if negative then '-' :: body else body)

end Milp.Double
