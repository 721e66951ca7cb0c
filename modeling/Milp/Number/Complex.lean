import Milp.Number.Reading

/-!
# Complex numbers in writing

A complex number is a real part, an imaginary part followed by the letter `j`, or both, the second
one with a sign. A sign may stand for an imaginary part of one. Parentheses may stand around the
number, and blanks around these and inside of them. All that is kept of the number is its real part.
-/

namespace Milp.Complex

open Double Text

/-- Why a text writes no complex number. -/
inductive Fault where
  /-- An underscore does not group digits. -/
  | grouping
  | malformed
  deriving DecidableEq, Repr

/-- The text after the letter of an imaginary part. -/
def afterLetter? : List Char → Option (List Char)
  | 'j' :: cs | 'J' :: cs => some cs
  | _ => none

/-- The real part of the number at the start of a text, and the text after the number. -/
def readParts? (cs : List Char) : Option (Float × List Char) :=
  match readNumber? cs with
  | some (x, rest) =>
    match rest with
    | c :: cs =>
      if c = '+' ∨ c = '-' then
        let rest := ((readNumber? rest).map Prod.snd).getD cs
        (afterLetter? rest).map (x, ·)
      else some (match afterLetter? rest with
        | some rest => (0, rest)
        | none => (x, rest))
    | [] => some (x, [])
  | none => (afterLetter? (readSign cs).2).map (0, ·)

/-- A text up to the first character that can be no part of a number, which is an ASCII character in
what is left. A text of ASCII characters stays as it is. -/
def legible (cs : List Char) : List Char :=
  let isLegible := fun c : Char => c.toNat < 127 || isBlank c || isDigit c
  if cs.all (·.toNat < 128) then cs
  else
    match cs.dropWhile isLegible with
    | [] => cs
    | _ => cs.takeWhile isLegible ++ ['?']

/-- A text without its underscores, if they group digits. A character zero ends the text; only where
there are underscores in front of it, it is refused. -/
def ungroupedText? (cs : List Char) : Option (List Char) :=
  let shown := cs.takeWhile (· ≠ '\x00')
  if !shown.contains '_' then some cs
  else if shown.length < cs.length then none
  else ungrouped? cs

/-- The real part of a number in writing. -/
def realPart (s : String) : Except Fault Float :=
  match ungroupedText? (legible s.toList) with
  | none => .error .grouping
  | some cs =>
    let read : Option Float := do
      match cs.dropWhile isMargin with
      | '(' :: cs =>
        match ← readParts? (cs.dropWhile isMargin) with
        | (x, rest) =>
          match rest.dropWhile isMargin with
          | ')' :: rest => if rest.all isMargin then return x else none
          | _ => none
      | cs =>
        let (x, rest) ← readParts? cs
        if rest.all isMargin then return x else none
    match read with
    | some x => .ok x
    | none => .error .malformed

end Milp.Complex
