/-!
# Code points

A text is a row of code points. Nothing keeps it from holding a surrogate, the half of a pair that
JSON writes a character beyond the first 65,536 as, although no character is one. In a string a
surrogate is kept as two characters, a mark and a character that tells which one it is; the mark
itself is kept as two marks.
-/

namespace Milp.Text

/-- The last of all characters, which has no meaning of its own. -/
def mark : Char := Char.ofNat 0x10FFFF

/-- What is added to a surrogate to give the character that tells it from others. -/
def shift : Nat := 0x101800

/-- The number is the code point of a surrogate. -/
def isSurrogate (p : Nat) : Bool := 0xD800 ≤ p && p < 0xE000

/-- The characters by which a code point is kept. -/
def charsOf (p : Nat) : List Char :=
  if isSurrogate p then [mark, Char.ofNat (p + shift)]
  else if p = mark.toNat then [mark, mark]
  else [Char.ofNat p]

/-- The code points that some characters keep. -/
def pointsOf : List Char → List Nat
  | [] => []
  | [c] => [c.toNat]
  | c :: d :: cs =>
    if c = mark then (if d = mark then d.toNat else d.toNat - shift) :: pointsOf cs
    else c.toNat :: pointsOf (d :: cs)

/-- The code points of a text. -/
def points (s : String) : List Nat := pointsOf s.toList

/-- The text of some code points. -/
def ofPoints (ps : List Nat) : String := String.ofList (ps.flatMap charsOf)

/-- The number of code points. -/
def size (s : String) : Nat := (points s).length

/-- The code points of a text, each as a text of its own. -/
def singles (s : String) : List String := (points s).map fun p => ofPoints [p]

/-- The first code point of some characters as a text. -/
def firstOf (cs : List Char) : String := ofPoints ((pointsOf cs).take 1)

end Milp.Text
