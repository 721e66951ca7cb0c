import Milp.Number

/-!
# Quotients rounded down

The quotient of two numbers rounded down, and what remains beside it, which has the sign of the
divisor. Doubles have an exact remainder as long as the divisor is not zero and the dividend is
finite.
-/

namespace Milp

namespace Double

/-- What remains of a dividend, with its own sign. -/
def rest (x y : Float) : Float :=
  match parts x, parts y with
  | .finite .., .infinite _ => x
  | .finite negative m q, .finite _ n r =>
    let e := min q r
    let divisor := n * twoPow (r - e).toNat
    if divisor = 0 then nan
    else
      let m := (m * twoPow (q - e).toNat) % divisor
      if 0 ≤ e then ofRatio negative (m * twoPow e.toNat) 1
      else ofRatio negative m (twoPow (-e).toNat)
  | _, _ => nan

/-- A zero with the sign of a double. -/
def zeroLike (x : Float) : Float :=
  Float.ofBits (UInt64.ofNat (signBit (twoPow 63 ≤ x.toBits.toNat)))

/-- The remainder with the sign of the divisor. -/
def floorMod (x y : Float) : Float :=
  let r := rest x y
  if r == 0 then zeroLike y else if decide (y < 0) != decide (r < 0) then r + y else r

/-- The quotient rounded down. -/
def floorDiv (x y : Float) : Float :=
  if y == 0 then x / y
  else
    let r := rest x y
    let q := (x - r) / y
    let q := if r != 0 && decide (y < 0) != decide (r < 0) then q - 1 else q
    if q == 0 then zeroLike (x / y)
    else if 0.5 < q - q.floor then q.floor + 1 else q.floor

end Double

namespace Number

/-- An operation on words by way of integers. -/
def onWords (f : Int → Int → Int) (m n : Int64) : Int64 := Int64.ofInt (f m.toInt n.toInt)

def floorDiv : Number → Number → Except ScalarError Number :=
  combine ⟨Int.fdiv, onWords Int.fdiv, Double.floorDiv⟩

/-- The remainder; that of a division by zero is zero. -/
def floorMod : Number → Number → Except ScalarError Number :=
  let mod := fun m n => if n = 0 then 0 else Int.fmod m n
  combine ⟨mod, onWords mod, Double.floorMod⟩

end Number

end Milp
