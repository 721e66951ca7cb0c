import Milp.Number.Reading

/-!
# Extended precision

Numbers with a significand of sixty-four binary digits and a range far beyond that of doubles. In
the end they become doubles, so such a number is given as the double that is nearest to it. In
writing it is decimal, or hexadecimal with a power of two; only plain blanks may stand in front
of it.
-/

namespace Milp.Extended

open Double Text

/-- The number of binary digits of a significand. -/
def precision : Nat := 64

/-- A fraction, rounded first to extended precision and then to a double. -/
def ofRatio (negative : Bool) (num den : Nat) : Float :=
  let (n, d) := roundDigits precision num den
  Double.ofRatio negative n d

/-- A decimal, rounded in the same way. What is beyond the doubles needs no digits. -/
def ofDecimal (negative : Bool) (digits : Nat) (exponent : Int) : Float :=
  let size : Int := (Nat.log2 digits : Int) * 30103 / 100000 + exponent
  if digits = 0 ∨ size < -400 ∨ 400 < size then Double.ofDecimal negative digits exponent
  else if 0 ≤ exponent then ofRatio negative (digits * tenPow exponent.toNat) 1
  else ofRatio negative digits (tenPow (-exponent).toNat)

/-- The number `± n · 2 ^ exponent`, rounded in the same way. -/
def ofBinary (negative : Bool) (n : Nat) (exponent : Int) : Float :=
  let size : Int := (Nat.log2 n : Int) + exponent
  if n = 0 ∨ size < -1200 then Double.ofRatio negative 0 1
  else if 1200 < size then infinity negative
  else if 0 ≤ exponent then ofRatio negative (n * twoPow exponent.toNat) 1
  else ofRatio negative n (twoPow (-exponent).toNat)

/-! ### Reading -/

/-- The value of a hexadecimal digit. -/
def hexDigit? (c : Char) : Option Nat :=
  if c.isDigit then some (c.toNat - '0'.toNat)
  else if 'a' ≤ c.toLower ∧ c.toLower ≤ 'f' then some (c.toLower.toNat - 'a'.toNat + 10)
  else none

def isHexDigit (c : Char) : Bool := (hexDigit? c).isSome

/-- What digits, a point and an exponent say, and the text after them. -/
structure Written where
  digits : List Char
  /-- How many of the digits stand after the point. -/
  places : Nat
  exponent : Int
  rest : List Char

/-- Digits of some base with an optional point and an exponent after a letter. -/
def readWritten? (isDigit : Char → Bool) (letter : Char) (cs : List Char) : Option Written := do
  let whole := cs.takeWhile isDigit
  let rest := cs.dropWhile isDigit
  let (fraction, rest) := match rest with
    | '.' :: r => (r.takeWhile isDigit, r.dropWhile isDigit)
    | r => ([], r)
  guard !(whole.isEmpty && fraction.isEmpty)
  let (exponent, rest) := match rest with
    | c :: ds =>
      let (negative, ds) := readSign ds
      if c.toLower = letter ∧ ds.head?.any Char.isDigit then
        let n := digitsValue (ds.takeWhile Char.isDigit)
        ((if negative then -n else n : Int), ds.dropWhile Char.isDigit)
      else (0, rest)
    | [] => (0, [])
  return ⟨whole ++ fraction, fraction.length, exponent, rest⟩

/-- A number without its sign at the start of a text, and the text after it. -/
def readBody? (negative : Bool) (cs : List Char) : Option (Float × List Char) :=
  let hex := match cs with
    | '0' :: x :: cs => if x = 'x' ∨ x = 'X' then readWritten? isHexDigit 'p' cs else none
    | _ => none
  match hex with
  | some w =>
    let n := w.digits.foldl (fun n c => 16 * n + (hexDigit? c).getD 0) 0
    some (ofBinary negative n (w.exponent - 4 * w.places), w.rest)
  | none =>
    (readWritten? Char.isDigit 'e' cs).map fun w =>
      (ofDecimal negative (digitsValue w.digits) (w.exponent - w.places), w.rest)

/-- The text after a remark in parentheses, which the word for no number can have. -/
def dropRemark (cs : List Char) : List Char :=
  match cs with
  | '(' :: ds =>
    match ds.dropWhile fun c => c.isAlphanum || c = '_' with
    | ')' :: rest => rest
    | rest => rest
  | _ => cs

/-- The blanks that may stand in front of a number. -/
def isMargin (c : Char) : Bool := c = ' ' || (9 ≤ c.toNat && c.toNat ≤ 13)

/-- Reads a number. A character zero ends the text. Blanks alone count as zero. -/
def ofText? (s : String) : Option Float := do
  let text := s.toList.takeWhile (· ≠ '\x00')
  let cs := text.dropWhile isMargin
  if cs.isEmpty && !text.isEmpty then return 0
  let (negative, body) := readSign cs
  let read := match dropWord? "nan" body with
    | some rest => some (nan, dropRemark rest)
    | none => readWord? negative body <|> readBody? negative body
  match ← read with
  | (x, []) => return x
  | _ => none

end Milp.Extended
