import Milp.Number.Places
import Milp.Numeric.Entries
import Milp.Text.Split

/-!
# Arrays in writing

All entries of an array are written in words of one width, so that they stand in columns. Doubles
have the digits that they need, up to eight after the point; where they are very large, very small
or far apart, all of them are written with exponents. Lines that are too long are broken. Of an
array with very many entries, only those near the ends of its dimensions are shown.
-/

namespace Milp.Numeric

/-! ### Doubles -/

/-- A double in writing, in the parts that are brought into line. -/
structure Figure where
  /-- The digits before the point, with the sign. -/
  front : List Char
  /-- The digits after the point. -/
  back : List Char
  exponent : Int

/-- How many digits there are after the point at most. -/
def placesKept : Nat := 8

/-- A decimal with all of its `placesKept` places as a figure. -/
def Figure.ofDecimal (negative : Bool) (n : Nat) (exponent : Int) : Figure :=
  let digits := Double.digitsOf n
  let digits := List.replicate (placesKept + 1 - digits.length) '0' ++ digits
  let (front, back) := digits.splitAt (digits.length - placesKept)
  ⟨if negative then '-' :: front else front, (Double.stripZeros back).1, exponent⟩

/-- How many units of the last place make up a positive double, the shortest decimal of which is
`d · 10 ^ k`. -/
def unitsOf (m : Nat) (q : Int) (d : Nat) (k lastPlace : Int) : Nat :=
  if lastPlace ≤ k then d * tenPow (k - lastPlace).toNat
  else
    let (n, den) := (Double.neighbourhood m q).inTens lastPlace
    Double.roundDiv n den

/-- A finite double as a figure of its own, with or without an exponent. -/
def figureOf (negative : Bool) (m : Nat) (q : Int) (withExponent : Bool) : Figure :=
  if m = 0 then .ofDecimal negative 0 0
  else
    let (d, k) := Double.shortest m q
    if withExponent then
      let e := k + (Double.digitsOf d).length - 1
      let n := unitsOf m q d k (e - placesKept)
      if tenPow (placesKept + 1) ≤ n then .ofDecimal negative (n / 10) (e + 1)
      else .ofDecimal negative n e
    else .ofDecimal negative (unitsOf m q d k (-(placesKept : Int))) 0

/-- A finite double as a figure with an exponent and so many places, whether they are needed to tell
it from other doubles or not. -/
def exactFigure (negative : Bool) (m : Nat) (q : Int) (places : Nat) : Figure :=
  let v := Double.neighbourhood m q
  let (digits, e) := Double.significant (places + 1) v.value v.den
  let front := digits.take 1
  ⟨if negative then '-' :: front else front, digits.drop 1, e⟩

/-- Doubles with exponents are needed where they are too large, too small or too far apart. -/
def needExponents (xs : List Float) : Bool :=
  let sizes := (xs.filter fun x => x.isFinite && x != 0).map Float.abs
  match sizes with
  | [] => false
  | x :: rest =>
    let top := rest.foldl (fun a b => if a < b then b else a) x
    let bottom := rest.foldl (fun a b => if b < a then b else a) x
    decide (1e8 ≤ top) || decide (bottom < 1e-4) || decide (1000 < top / bottom)

/-- The greatest of some lengths. -/
def greatest (lengths : List Nat) : Nat := lengths.foldl max 0

/-- A word with blanks in front, to have a width. -/
def padFront (width : Nat) (word : List Char) : List Char :=
  List.replicate (width - word.length) ' ' ++ word

/-- An exponent in writing, with at least so many digits. -/
def exponentText (size : Nat) (e : Int) : List Char :=
  let digits := Double.digitsOf e.natAbs
  ['e', if e < 0 then '-' else '+'] ++ List.replicate (size - digits.length) '0' ++ digits

/-- Doubles as words of one width. -/
def doubleWords (xs : List Float) : List String :=
  let withExponent := needExponents xs
  let figures := xs.map fun x =>
    match Double.parts x with
    | .finite negative m q => .inr (figureOf negative m q withExponent, negative, m, q)
    | _ => .inl (Double.text x).toList
  let finite := (figures.filterMap Sum.getRight?).map Prod.fst
  let places := greatest (finite.map fun f => f.back.length)
  let size := max 2 (greatest (finite.map fun f => (Double.digitsOf f.exponent.natAbs).length))
  let behind := if finite.isEmpty then 0 else if withExponent then size + 2 + places else places
  let other := figures.filterMap Sum.getLeft?
  let front := max (greatest (finite.map fun f => f.front.length))
    (greatest (other.map fun w => w.length - (behind + 1)))
  figures.map fun
    | .inl word => String.ofList (padFront (front + behind + 1) word)
    | .inr (f, negative, m, q) =>
      if withExponent then
        let f := exactFigure negative m q places
        String.ofList (padFront front f.front ++ '.' :: f.back ++ exponentText size f.exponent)
      else
        String.ofList (padFront front f.front ++ '.' :: f.back ++
          List.replicate (places - f.back.length) ' ')

/-! ### What is shown -/

/-- An array with more entries than these is not shown as a whole. -/
def mostShown : Nat := 1000

/-- How many parts are then shown at each end of a dimension. -/
def edge : Nat := 3

/-- The number of parts that are shown of a dimension. -/
def shownLength (n : Nat) : Nat := if 2 * edge < n then 2 * edge else n

/-- The entries that are shown of a shape where parts are left out. -/
def edgeEntries {τ : Type} : (shape : List Nat) → List τ → List τ
  | [], entries => entries
  | n :: shape, entries =>
    let rows := Block.pieces (Block.volume shape) n entries
    let rows := if 2 * edge < n then rows.take edge ++ rows.drop (n - edge) else rows
    (rows.map (edgeEntries shape)).flatten

/-- What is shown of a block. -/
def excerpt {τ : Type} (b : Block τ) : Block τ :=
  if mostShown < b.entries.length then
    ⟨b.shape.map shownLength, edgeEntries b.shape b.entries⟩
  else b

/-- Stands for the parts that are not shown. -/
def gapText : String := "..."

/-- Puts the mark for a gap into the middle of what is shown of a dimension. -/
def withGap (full shown : Nat) (words : List String) : List String :=
  if shown < full then words.take edge ++ gapText :: words.drop edge else words

/-! ### Words in lines -/

/-- Words of one width. -/
def alignedWords (words : List String) : List String :=
  let width := greatest (words.map String.length)
  words.map fun w => String.ofList (padFront width w.toList)

/-- A line without the blanks at its end. -/
def trimmed (line : String) : String :=
  String.ofList (line.toList.reverse.dropWhile Text.isBlank).reverse

/-- Puts words after each other in lines that start with `indent` and are at most `width` long;
every word but the last one is followed by the separator. A word of several lines is set as a block
as wide as its longest line. -/
def lines (separator indent : String) (width : Nat) : (line : String) → List String → String
  | line, [] => line
  | line, word :: rest =>
    let parts := Text.lines word
    let length := greatest (parts.map String.length)
    let isBroken := decide (width < line.length + length ∧ indent.length < line.length)
    let (before, line) := if isBroken then (trimmed line ++ "\n", indent) else ("", line)
    let inner := String.ofList (List.replicate line.length ' ')
    let (full, last) := match parts with
      | first :: next :: more =>
        let below := (next :: more).map (inner ++ ·)
        let last := below.getLastD ""
        let all := (line ++ first) :: below.dropLast
        (String.join (all.map fun l => trimmed l ++ "\n"),
          last ++ String.ofList (List.replicate (inner.length + length - last.length) ' '))
      | _ => ("", line ++ word)
    before ++ full ++
      lines separator indent width (if rest.isEmpty then last else last ++ separator) rest

/-- The words of a shape in brackets, one pair for every part along every dimension. Of each
dimension, its length and how much of it is shown are given. -/
def bracketed (separator : String) : (shape : List (Nat × Nat)) → (indent : String) →
    (width : Nat) → List String → String
  | [], _, _, words => String.join words
  | [(full, shown)], indent, width, words =>
    let room := width - max separator.trimAsciiEnd.toString.length 1
    "[" ++ (lines separator indent room indent (withGap full shown words)).drop indent.length ++
      "]"
  | (full, shown) :: n :: shape, indent, width, words =>
    let rows := (Block.pieces (Block.volume ((n :: shape).map Prod.snd)) shown words).map
      (bracketed separator (n :: shape) (indent ++ " ") (width - 1))
    let between := separator.trimAsciiEnd.toString ++ String.ofList
      (List.replicate (shape.length + 1) '\n') ++ indent
    "[" ++ between.intercalate (withGap full shown rows) ++ "]"

/-- The length of a line. -/
def lineWidth : Nat := 75

/-- An array of some shape in writing as it stands alone. The words of the entries that are shown
are given. -/
def blockText (shape : List Nat) (b : Block String) : String :=
  if b.entries.isEmpty then "[]"
  else bracketed " " (shape.zip b.shape) " " lineWidth b.entries

/-- The name of a type of entries, where entries do not tell it. -/
def tellingName : EntryType → String
  | .text n => Text.quoted (EntryType.text n).name
  | t => t.name

/-- An array of some shape in a message, which tells the type of its entries and its shape where
these do not show. The words of the entries that are shown are given. -/
def blockDisplay (t : EntryType) (size : List Nat) (b : Block String) : String :=
  let start := "array("
  let indent := String.ofList (List.replicate start.length ' ')
  let text := start ++ (if b.entries.isEmpty then "[]"
    else bracketed ", " (size.zip b.shape) (indent ++ " ") (lineWidth - 1) b.entries)
  let shows := match t with
    | .truth | .signed | .double => !b.entries.isEmpty
    | .byte | .unsigned | .text _ | .any => false
  let shape :=
    if b.entries.isEmpty ∧ size ≠ [0] ∨ mostShown < Block.volume size then
      ["shape=" ++ shapeText ", " size]
    else []
  let extras := shape ++ if shows then [] else ["dtype=" ++ tellingName t]
  if extras.isEmpty then text ++ ")"
  else
    let extra := joined ", " extras ++ ")"
    let last := ((text ++ ",").toList.reverse.takeWhile (· ≠ '\n')).length
    let spacer := if lineWidth < last + extra.length + 1 then "\n" ++ indent else " "
    text ++ "," ++ spacer ++ extra

end Milp.Numeric
