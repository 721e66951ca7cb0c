import Milp.Number.Rounding
import Milp.Text.Blank
import Milp.Text.Digit

/-!
# Doubles in writing, read back

A number is written as digits of any script with an optional sign, point and exponent, or as one of
the words for infinity and for no number. Single underscores may group the digits, and blanks may
stand around the whole.
-/

namespace Milp.Double

open Milp.Text

/-- Underscores stand only between two digits. -/
def groupingOk : (afterDigit : Bool) → List Char → Bool
  | _, [] => true
  | afterDigit, '_' :: c :: cs => afterDigit && isDigit c && groupingOk true cs
  | _, ['_'] => false
  | _, c :: cs => groupingOk (isDigit c) cs

/-- The sign in front of a number and what follows it. -/
def readSign : List Char → Bool × List Char
  | '+' :: cs => (false, cs)
  | '-' :: cs => (true, cs)
  | cs => (false, cs)

/-- An exponent at the start of a text, and the text after it: nothing at all, or the letter, a sign
and digits. -/
def readExponent (cs : List Char) : Int × List Char :=
  match cs with
  | c :: ds =>
    let (negative, ds) := readSign ds
    if (c = 'e' ∨ c = 'E') ∧ ds.head?.any isDigit then
      let n := digitsValue (ds.takeWhile isDigit)
      (if negative then -n else n, ds.dropWhile isDigit)
    else (0, cs)
  | [] => (0, [])

/-- A number in digits at the start of a text, without its sign, and the text after it. -/
def readDigits? (negative : Bool) (cs : List Char) : Option (Float × List Char) := do
  let whole := cs.takeWhile isDigit
  let rest := cs.dropWhile isDigit
  let (fraction, rest) := match rest with
    | '.' :: r => (r.takeWhile isDigit, r.dropWhile isDigit)
    | r => ([], r)
  guard !(whole.isEmpty && fraction.isEmpty)
  let (exponent, rest) := readExponent rest
  return (ofDecimal negative (digitsValue (whole ++ fraction)) (exponent - fraction.length), rest)

/-- A text without a word at its start, in any letter case. -/
def dropWord? (word : String) (cs : List Char) : Option (List Char) :=
  if word.toList.isPrefixOf (cs.map Char.toLower) then some (cs.drop word.length) else none

/-- An infinity. -/
def infinity (negative : Bool) : Float :=
  Float.ofBits (UInt64.ofNat (signBit negative + infinityBits))

/-- What is no number. -/
def nan : Float := Float.ofBits (UInt64.ofNat (infinityBits + twoPow 51))

/-- One of the words for infinity and for no number at the start of a text, and the text after
it. -/
def readWord? (negative : Bool) (cs : List Char) : Option (Float × List Char) :=
  match dropWord? "inf" cs, dropWord? "nan" cs with
  | some rest, _ => some (infinity negative, (dropWord? "inity" rest).getD rest)
  | none, some rest => some (nan, rest)
  | none, none => none

/-- The longest number at the start of a text, with its sign, and the text after it. -/
def readNumber? (cs : List Char) : Option (Float × List Char) :=
  let (negative, body) := readSign cs
  readDigits? negative body <|> readWord? negative body

/-- The blanks that may stand around a number: all but the information separators. -/
def isMargin (c : Char) : Bool := isBlank c && !(0x1C ≤ c.toNat && c.toNat ≤ 0x1F)

/-- A text without the blanks around it. -/
def trimmed (cs : List Char) : List Char :=
  ((cs.dropWhile isMargin).reverse.dropWhile isMargin).reverse

/-- A text without its underscores, if they group digits. -/
def ungrouped? (cs : List Char) : Option (List Char) :=
  if groupingOk false cs then some (cs.filter (· != '_')) else none

/-- Reads a double. -/
def ofText? (s : String) : Option Float := do
  match ← readNumber? (← ungrouped? (trimmed s.toList)) with
  | (x, []) => return x
  | _ => none

/-- Reads an integer. -/
def intOfText? (s : String) : Option Int := do
  let (negative, ds) := readSign (← ungrouped? (trimmed s.toList))
  guard (!ds.isEmpty && ds.all isDigit)
  return if negative then -(digitsValue ds) else digitsValue ds

/-- The base for which the start of an integer in writing stands. -/
def basePrefix? : List Char → Option Nat
  | '0' :: c :: _ =>
    match c.toLower with
    | 'x' => some 16
    | 'o' => some 8
    | 'b' => some 2
    | _ => none
  | _ => none

/-- The value of a character as a digit of a base. The letters follow the digits. -/
def digitIn? (base : Nat) (c : Char) : Option Nat :=
  let n? := (digitValue? c).orElse fun _ =>
    if c.isAlpha then some (c.toLower.toNat - 'a'.toNat + 10) else none
  n?.filter (· < base)

/-- Reads an integer in a base, for which it may start with a prefix. In base zero the prefix tells
the base, which is ten without one, and then no zeros may stand in front. -/
def intInBase? (base : Nat) (s : String) : Option Int := do
  let (negative, cs) := readSign (trimmed s.toList)
  let told := (basePrefix? cs).filter fun b => base = 0 ∨ base = b
  let b := told.getD (if base = 0 then 10 else base)
  let cs := match told, cs.drop 2 with
    | none, _ => cs
    | some _, '_' :: ds => ds
    | some _, ds => ds
  guard ((cs.splitOn '_').all fun ds => !ds.isEmpty)
  let ds ← (cs.filter (· ≠ '_')).mapM (digitIn? b)
  guard (base ≠ 0 || told.isSome || ds.head? ≠ some 0 || ds.all (· = 0))
  let n : Nat := ds.foldl (fun n d => b * n + d) 0
  return if negative then -n else n

/-- The number of digits that an integer in writing starts with; of what starts like no integer,
none. -/
def leadingDigits (s : String) : Nat :=
  let cs := (readSign (s.toList.dropWhile isMargin)).2
  let ds := cs.takeWhile fun c => isDigit c || c = '_'
  if groupingOk false ds then ds.countP isDigit else 0

end Milp.Double
