import Milp.Number.Power

/-!
# The bits of integers

An integer as an endless row of binary digits: far to the left all of them are zeros, or all of them
are ones if the integer is negative. Of such rows it takes as many digits as the longer one of two
has, and one for the sign, to tell them apart.
-/

namespace Milp.Bits

/-- How many binary digits it takes to write an integer without its sign. -/
def length (n : Int) : Nat := if n = 0 then 0 else n.natAbs.log2 + 1

/-- How many ones there are among the binary digits of a natural number. -/
def ones (n : Nat) : Nat := ((Nat.toDigits 2 n).filter (· = '1')).length

/-- How many ones there are in an integer without its sign. -/
def count (n : Int) : Nat := ones n.natAbs

/-- The last digits of the row of an integer, as a natural number. -/
def lowest (width : Nat) (n : Int) : Nat := (n % twoPow width).toNat

/-- The integer with the given last digits, the first of which tells the sign. -/
def ofLowest (width : Nat) (n : Nat) : Int :=
  if 2 * n < twoPow width then n else (n : Int) - twoPow width

/-- Joins two rows digit by digit. -/
def join (f : Nat → Nat → Nat) (m n : Int) : Int :=
  let width := max (length m) (length n) + 1
  ofLowest width (f (lowest width m) (lowest width n))

/-- Both digits are ones. -/
def both : Int → Int → Int := join Nat.land

/-- One of the digits is a one. -/
def either : Int → Int → Int := join Nat.lor

/-- Just one of the digits is a one. -/
def different : Int → Int → Int := join Nat.xor

/-- Ones in place of the zeros and zeros in place of the ones. -/
def opposite (n : Int) : Int := -n - 1

/-- The row without its last digits. -/
def dropLast (n : Int) (count : Nat) : Int :=
  if length n < count then if n < 0 then -1 else 0 else Int.fdiv n (twoPow count)

/-! ### Bytes -/

/-- The last bytes of an integer, the least one first. -/
def toBytes : (count : Nat) → Nat → List Nat
  | 0, _ => []
  | count + 1, n => n % 256 :: toBytes count (n / 256)

/-- The integer of some bytes, the least one first. -/
def ofBytes (bytes : List Nat) : Nat := bytes.foldr (fun b n => b + 256 * n) 0

theorem ofBytes_toBytes (count n : Nat) : ofBytes (toBytes count n) = n % twoPow (8 * count) := by
  induction count generalizing n with
  | zero => simp [toBytes, ofBytes, twoPow, Nat.mod_one]
  | succ count ih =>
    have step : twoPow (8 * count + 8) = 256 * twoPow (8 * count) := by
      simp only [twoPow_succ]
      omega
    have tail := ih (n / 256)
    simp only [ofBytes] at tail
    simp only [toBytes, ofBytes, List.foldr_cons, tail, Nat.mul_succ, step, Nat.mod_mul]

end Milp.Bits
