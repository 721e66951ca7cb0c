import Milp.Text.Blank

/-!
# Splitting a text

A text is split at every place of a separator, found from left to right, or at its blank characters.
Splitting may end after a number of cuts; what is left is then the last piece. A text is also split
into its lines.
-/

namespace Milp.Text

variable {τ : Type} [BEq τ]

/-- The pieces between separators. `skip` items still belong to the separator before, and the items
of the piece at hand are held in reverse. -/
def piecesFrom (separator : List τ) :
    (cuts : Nat) → (skip : Nat) → (piece : List τ) → List τ → List (List τ)
  | _, _, piece, [] => [piece.reverse]
  | cuts, skip + 1, piece, _ :: xs => piecesFrom separator cuts skip piece xs
  | 0, 0, piece, x :: xs => piecesFrom separator 0 0 (x :: piece) xs
  | cuts + 1, 0, piece, x :: xs =>
    if separator.isPrefixOf (x :: xs) then
      piece.reverse :: piecesFrom separator cuts (separator.length - 1) [] xs
    else piecesFrom separator (cuts + 1) 0 (x :: piece) xs

/-- The pieces of a text between separators, cut so many times at most. -/
def pieces (separator : List τ) (cuts : Nat) (text : List τ) : List (List τ) :=
  piecesFrom separator cuts 0 [] text

/-- The words of a text, which are separated by blanks. After a number of cuts all that is left from
the next word on is the last one. The fuel is used up by one for every word. -/
def wordsFrom : (fuel : Nat) → (cuts : Nat) → List Char → List (List Char)
  | 0, _, _ => []
  | fuel + 1, cuts, cs =>
    match cuts, cs.dropWhile isBlank with
    | _, [] => []
    | 0, cs => [cs]
    | cuts + 1, cs =>
      cs.takeWhile (!isBlank ·) :: wordsFrom fuel cuts (cs.dropWhile (!isBlank ·))

/-- The words of a text, cut so many times at most. -/
def words (cuts : Nat) (cs : List Char) : List (List Char) := wordsFrom (cs.length + 1) cuts cs

/-- The character ends a line. -/
def isBreak (c : Char) : Bool :=
  (0xA ≤ c.toNat && c.toNat ≤ 0xD) || (0x1C ≤ c.toNat && c.toNat ≤ 0x1E) || c.toNat = 0x85 ||
    c.toNat = 0x2028 || c.toNat = 0x2029

/-- The lines of characters, of which those of the line at hand are held in reverse. -/
def linesFrom : (line : List Char) → List Char → List (List Char)
  | [], [] => []
  | line, [] => [line.reverse]
  | line, '\r' :: '\n' :: cs => line.reverse :: linesFrom [] cs
  | line, c :: cs => if isBreak c then line.reverse :: linesFrom [] cs else linesFrom (c :: line) cs

/-- The lines of a text; a break at its end starts no further one. -/
def lines (t : String) : List String := (linesFrom [] t.toList).map String.ofList

end Milp.Text
