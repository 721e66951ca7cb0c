import Milp.Number.Calculation
import Milp.Number.Extended

/-!
# Doubles in hexadecimal writing

A double is written exactly with hexadecimal digits and the power of two that they are multiplied
with, and any such writing is read back as the nearest double.
-/

namespace Milp.Hexadecimal

open Double

/-- Thirteen hexadecimal digits, as many as follow the first one of a double. -/
def places (fraction : Nat) : String :=
  let ds := Nat.toDigits 16 fraction
  String.ofList (List.replicate (13 - ds.length) '0' ++ ds)

/-- A double in writing. -/
def text (x : Float) : String :=
  let bits := x.toBits.toNat
  let exponent : Nat := bits / twoPow 52 % twoPow 11
  let fraction : Nat := bits % twoPow 52
  let sign := if twoPow 63 ≤ bits then "-" else ""
  let power := fun e : Int => (if e < 0 then "-" else "+") ++ toString e.natAbs
  if exponent = 0x7FF then Double.text x
  else if exponent = 0 then
    if fraction = 0 then sign ++ "0x0.0p+0"
    else sign ++ "0x0." ++ places fraction ++ "p" ++ power (-1022)
  else sign ++ "0x1." ++ places fraction ++ "p" ++ power ((exponent : Int) - 1023)

/-- The double nearest to `± n · 2 ^ exponent`. -/
def ofBinary (negative : Bool) (n : Nat) (exponent : Int) : Except CalculationError Float :=
  let size : Int := (Nat.log2 n : Int) + exponent
  let x := if n = 0 ∨ size < -1200 then ofRatio negative 0 1
    else if 1200 < size then infinity negative
    else if 0 ≤ exponent then ofRatio negative (n * twoPow exponent.toNat) 1
    else ofRatio negative n (twoPow (-exponent).toNat)
  if x.isInf then .error .hexadecimalTooLarge else .ok x

/-- Reads a number without its sign. -/
def readBody (negative : Bool) (cs : List Char) : Except CalculationError Float :=
  match readWord? negative cs with
  | some (x, []) => .ok x
  | some _ => .error .badHexadecimal
  | none =>
    let digits := match cs with
      | '0' :: x :: ds => if x = 'x' ∨ x = 'X' then ds else cs
      | _ => cs
    match Extended.readWritten? Extended.isHexDigit 'p' digits with
    | some ⟨ds, places, exponent, []⟩ =>
      let n := ds.foldl (fun n c => 16 * n + (Extended.hexDigit? c).getD 0) 0
      ofBinary negative n (exponent - 4 * places)
    | _ => .error .badHexadecimal

/-- Reads a double. -/
def ofText (s : String) : Except CalculationError Float :=
  let cs := s.toList.dropWhile Extended.isMargin
  let cs := (cs.reverse.dropWhile Extended.isMargin).reverse
  let (negative, body) := readSign cs
  readBody negative body

end Milp.Hexadecimal
