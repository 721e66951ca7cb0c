import Milp.Number.Extended
import Milp.Numeric.Item

/-!
# Items as elements

An array is made in two steps. First every item becomes an element of the wanted type: integers have
to fit it, and doubles lose their fraction on the way to an integer type, or their precision on the
way to a short one. Then all elements become doubles, which fails for texts that write no number.
-/

namespace Milp.Numeric

/-- An element, by what it is as a double. -/
abbrev Cell := Except ItemError Float

namespace Element

/-- The integers that elements of a type can be. -/
def fits (signed : Bool) (bits : Nat) (n : Int) : Bool :=
  if signed then -twoPow (bits - 1) ≤ n && n < twoPow (bits - 1) else 0 ≤ n && n < twoPow bits

def typeName (signed : Bool) (bits : Nat) : String :=
  (if signed then "int" else "uint") ++ toString bits

/-! ### Doubles -/

/-- The double that a quantity is. -/
def double? (a : Quantity) : Except ItemError Float :=
  (a.toNumber.toDouble).mapError (.datum ∘ .scalar)

/-- What is no number, in quotes. -/
def badReal (quoted : String) : ItemError := .datum (.scalar (.badReal quoted))

/-- A single item as a double; nothing is no number. -/
def toDouble : Item → Except ItemError Float
  | .quantity a | .entry a => double? a
  | .null => .ok Double.nan
  | .text s =>
    match Double.ofText? s with
    | some x => .ok x
    | none => .error (badReal (Text.quoted s))
  | .other kind .. => .error (.datum (.scalar (.notReal kind.fullName)))
  | .list _ | .indexed _ => .error .nested

/-- A double with a significand of twenty-four binary digits. -/
def toSingle (x : Float) : Float := x.toFloat32.toFloat

/-- As `toDouble`, with a significand of twenty-four binary digits. A word is rounded at once. -/
def ofSingle (i : Item) : Except ItemError Float := do
  match i with
  | .quantity (.number (.word n)) =>
    let (m, den) := Double.roundDigits 24 n.toInt.natAbs 1
    return Double.ofRatio (n.toInt < 0) m den
  | i => return toSingle (← toDouble i)

/-- A single item as a number of extended precision. Integers of any size and texts keep all of that
precision. -/
def ofExtended : Item → Except ItemError Float
  | .quantity (.number (.whole n)) => do
    discard ((Number.whole n).writtenOut.mapError (.datum ∘ .scalar))
    return Extended.ofRatio (n < 0) n.natAbs 1
  | .text s =>
    match Extended.ofText? s with
    | some x => .ok x
    | none => .error (.badExtended (String.ofList (s.toList.takeWhile (· ≠ '\x00'))))
  | i => toDouble i

/-- A single item as the real part of a complex number. -/
def toRealPart : Item → Except ItemError Float
  | .text s => (Complex.realPart s).mapError fun fault => .badComplex fault (Text.quoted s)
  | .other kind .. => .error (.notRealNumber kind.fullName)
  | i => toDouble i

/-! ### Integers -/

/-- An integer as a machine word. Only the longer types without a sign go by way of words without
one. -/
def checkWord (signed : Bool) (bits : Nat) (n : Int) : Except ItemError Unit :=
  if fits true 64 n || (!signed && 32 ≤ bits && fits false 64 n) then .ok ()
  else .error (.datum (.scalar .tooLargeForWord))

/-- An integer that has to fit a type. -/
def exact (signed : Bool) (bits : Nat) (n : Int) : Except ItemError Int := do
  checkWord signed bits n
  if fits signed bits n then return n else throw (.outOfBounds n (typeName signed bits))

/-- The integer next to a double on the way to zero, in so many binary digits. What does not fit is
the least integer of that size. -/
def truncated (bits : Nat) (x : Float) : Int :=
  match Double.truncate? x with
  | some n => if fits true bits n then n else -twoPow (bits - 1)
  | none => -twoPow (bits - 1)

/-- A double out of an array as an integer without a sign; it goes by way of a longer type, of which
the lowest bits stay. -/
def unsigned (bits : Nat) (x : Float) : Int :=
  let half := Double.ofRatio false (twoPow 63) 1
  let n : Int :=
    if bits < 32 then truncated 32 x
    else if bits = 64 && half ≤ x then truncated 64 (x - half) + twoPow 63
    else truncated 64 x
  n % twoPow bits

/-- A number as an integer of a type. -/
def integerOf (signed : Bool) (bits : Nat) (a : Quantity) : Except ItemError Int :=
  match a, signed with
  | .number (.cell x), false => .ok (unsigned bits x)
  | .number (.word n), false => .ok (n.toInt % twoPow bits)
  | .number (.double x), _ | .number (.cell x), _ =>
    match Double.truncate? x with
    | some n => exact signed bits n
    | none => .error (.notFinite (x != x))
  | a, _ => exact signed bits (a.toNumber.integer?.getD 0)

/-- A single item as an integer of a type. -/
def toInteger (signed : Bool) (bits : Nat) : Item → Except ItemError Int
  | .quantity a | .entry a => integerOf signed bits a
  | .text s => do
    let count := Double.leadingDigits s
    if Number.maxDigits < count then throw (.datum (.scalar (.tooManyDigits (some count))))
    match Double.intOfText? s with
    | some n => exact signed bits n
    | none => throw (.badInteger (Text.quoted s))
  | .null => .error (.notInteger "NoneType")
  | .other kind .. => .error (.notInteger kind.fullName)
  | .list _ | .indexed _ => .error .nested

/-! ### Truth values -/

/-- A single item as a truth value. -/
def toTruth : Item → Bool
  | .quantity a | .entry a => !(a.same (.number (.whole 0))).toOption.getD false
  | .null => false
  | .text s => !s.isEmpty
  | .list items => !items.isEmpty
  | .other _ b .. => b
  | .indexed _ => true

/-! ### Texts -/

/-- A single item in writing. -/
def toText : Item → Except ItemError String
  | .quantity a | .entry a => a.toText.mapError (.datum ∘ .scalar)
  | .null => .ok "None"
  | .text s => .ok s
  | .other _ _ _ written => written.mapError .datum
  | .list _ | .indexed _ => .error .sequence

/-- Refuses texts that bytes cannot write. -/
def checkBytes (s : String) : Except ItemError Unit :=
  let ps := Text.points s
  let isWritten := fun p : Nat => decide (p < 128)
  match ps.dropWhile isWritten with
  | [] => .ok ()
  | p :: rest =>
    .error (.unencodable
      ⟨p, (ps.takeWhile isWritten).length, (rest.takeWhile (!isWritten ·)).length + 1⟩)

/-- The text of an element: cut off at the width, without zeros at the end. -/
def stored (width? : Option Nat) (s : String) : String :=
  let ps := match width? with
    | some n => (Text.points s).take n
    | none => Text.points s
  Text.ofPoints (ps.reverse.dropWhile (· = 0)).reverse

/-- A text that was an element, read as a double. -/
def ofStored (inBytes : Bool) (s : String) : Cell :=
  match Double.ofText? s with
  | some x => .ok x
  | none =>
    .error (badReal ((if inBytes then "np.bytes_(b" else "np.str_(") ++ Text.quoted s ++ ")"))

/-- A single item as an element in writing. -/
def toWriting (inBytes : Bool) (width? : Option Nat) (i : Item) : Except ItemError Cell := do
  let s ← toText i
  if inBytes then checkBytes s
  return ofStored inBytes (stored width? s)

/-! ### Bytes -/

/-- The bytes that a number out of an array is stored in, the least one first. -/
def storedBytes? : Quantity → Option (List Nat)
  | .number (.cell x) => some (bytesOf 8 x.toBits.toNat)
  | .number (.word n) => some (bytesOf 8 n.toUInt64.toNat)
  | .mark b => some [if b then 1 else 0]
  | .number _ => none
where
  bytesOf : Nat → Nat → List Nat
    | 0, _ => []
    | count + 1, n => n % 256 :: bytesOf count (n / 256)

/-- Bytes as an element of a width, read as a double in writing. -/
def ofBytes (width? : Option Nat) (bytes : List Nat) : Cell :=
  let width := width?.getD bytes.length
  let bytes := bytes.take width ++ List.replicate (width - bytes.length) 0
  let read := if bytes.all (· < 128) then Double.ofText? (Text.ofPoints bytes) else none
  match read with
  | some x => .ok x
  | none => .error .nested

/-! ### Times -/

/-- A count of units of time, which has to be a machine word. -/
def ofTicks (n : Int) : Except ItemError Float :=
  if !fits true 64 n then .error .tooBig else .ok (Double.ofRatio (n < 0) n.natAbs 1)

/-- The text stands for no time. -/
def isNoTime (s : String) : Bool := s.isEmpty || s.toList.map Char.toLower == "nat".toList

/-- A text as a point in time, counted in a unit with a count in front of it. -/
def ticksOfText (unit s : String) : Except ItemError Int :=
  if unit.isEmpty then .error .unitlessTime
  else
    match Moment.ofText s with
    | .ok (_, true) => .ok noTime
    | .ok (t, false) =>
      let (count, unit) := (leadingInteger? unit.toList).getD (1, unit.toList)
      let ticks := t.ticks (String.ofList unit)
      .ok (if 1 < count then Int.fdiv ticks count else ticks)
    | .error e => .error (.badTime e s)

/-- A text as a length of time: a sign and digits, with blanks in front of them. What is too long
for a machine word becomes the greatest or the least one. -/
def spanOfText? (s : String) : Option Int :=
  let (negative, ds) := Double.readSign (s.toList.dropWhile Extended.isMargin)
  if ds.isEmpty || !ds.all Char.isDigit then none
  else
    let n : Int := Text.digitsValue ds
    some (if negative then max (-n) noTime else min n (-noTime - 1))

/-- A single item as a time that is counted in a unit. -/
def toTime (isSpan : Bool) (unit : String) : Item → Except ItemError Float
  | .null => ofTicks noTime
  | .quantity (.number (.double _)) => .error (.notATime isSpan)
  | .quantity (.number (.cell x)) => ofTicks (truncated 64 x)
  | .quantity (.number (.word n)) => ofTicks n.toInt
  | .quantity (.mark b) => ofTicks (if b then 1 else 0)
  | .quantity a =>
    if isSpan || !unit.isEmpty then ofTicks (a.toNumber.integer?.getD 0) else .error .missingUnit
  | .text s =>
    if isNoTime s then ofTicks noTime
    else if isSpan then
      match spanOfText? s with
      | some n => ofTicks n
      | none => .error (.notATime isSpan)
    else do ofTicks (← ticksOfText unit s)
  | _ => .error (.notATime isSpan)

/-! ### All types -/

/-- The kind of an item. -/
def kindOf : Item → String
  | .quantity a | .entry a => a.kind.fullName
  | .null => "NoneType"
  | .text _ => "str"
  | .list _ => "list"
  | .other kind .. | .indexed kind => kind.fullName

/-- An element that is a double already. -/
def ready (r : Except ItemError Float) : Except ItemError Cell := .ok <$> r

/-- A value as an element. -/
def packValue (t : Element) (i : Item) : Except ItemError Cell :=
  match t with
  | truth => .ok (.ok (if toTruth i then 1 else 0))
  | integer signed bits => do
    let n ← toInteger signed bits i
    return .ok (Double.ofRatio (n < 0) n.natAbs 1)
  | half => do return .ok (Double.toHalf (← toDouble i))
  | single => ready (ofSingle i)
  | double => ready (toDouble i)
  | extended => ready (ofExtended i)
  | complex bytes =>
    match i with
    | .quantity (.number (.word _)) => ready (if bytes = 8 then ofSingle i else toDouble i)
    | i => do
      let x ← toRealPart i
      return .ok (if bytes = 8 then toSingle x else x)
  | any => .ok (toDouble i)
  | text inBytes width? => toWriting inBytes width? i
  | letter => toWriting true (some 1) i
  | words => do return toDouble (.text (← toText i))
  | raw width? =>
    match i with
    | .quantity a =>
      match storedBytes? a with
      | some bytes => .ok (ofBytes width? bytes)
      | none => .error (.notBytes width?.isNone (kindOf i))
    | i => .error (.notBytes width?.isNone (kindOf i))
  | span unit => ready (toTime true unit i)
  | instant unit => ready (toTime false unit i)

/-- The lowest bits of an entry of an array, as an integer with a sign. Doubles go by way of an
integer of at least 32 bits. -/
def wrapped (bits : Nat) (a : Quantity) : Int :=
  let n : Int := match a with
    | .number (.double x) | .number (.cell x) => truncated (if bits < 64 then 32 else 64) x
    | a => a.toNumber.integer?.getD 0
  Int.bmod n (twoPow bits)

/-- An entry of an array as an element of another type. No integer is too large for that. -/
def packEntry (t : Element) (a : Quantity) : Except ItemError Cell :=
  match t, a with
  | integer true bits, a =>
    let n := wrapped bits a
    .ok (.ok (Double.ofRatio (n < 0) n.natAbs 1))
  | single, .number (.whole n) | complex 8, .number (.whole n) =>
    let (m, den) := Double.roundDigits 24 n.natAbs 1
    .ok (.ok (Double.ofRatio (n < 0) m den))
  | integer .., .number (.whole n) | raw _, .number (.whole n) | span _, .number (.whole n)
  | instant _, .number (.whole n) => t.packValue (.quantity (.number (.word (Int64.ofInt n))))
  | t, a => t.packValue (.quantity a)

/-- A single item as an element. -/
def pack (t : Element) : Item → Except ItemError Cell
  | .entry a => t.packEntry a
  | i => t.packValue i

end Element

/-! ### Arrays -/

/-- A text that is to be single bytes, as a list of its characters. -/
def spelled : Item → Item
  | .text s =>
    match Text.singles s with
    | [_] => .text s
    | singles => .list (singles.map .text)
  | i => i

mutual

/-- Lists with all of their texts spelled. -/
def spelledItem : Item → Item
  | .list items => .list (spelledItems items)
  | i => spelled i

def spelledItems : List Item → List Item
  | [] => []
  | i :: rest => spelledItem i :: spelledItems rest

end

/-- The same cell everywhere in a block of some shape. -/
def blockOf (shape : List Nat) (c : Datum Cell) : Datum Cell :=
  match shape with
  | [] => c
  | n :: shape => .list (List.replicate n (blockOf shape c))

/-- The characters of a text as the rows of a block of some shape. A single character fills the whole
block. -/
def blockOfLetters (shape : List Nat) (s : String) : Except ItemError (Datum Cell) := do
  let cells ← (Text.singles s).mapM fun c => Element.letter.pack (.text c)
  match cells with
  | [c] => return blockOf shape (.number c)
  | cells =>
    if shape.getLast? = some cells.length then
      return blockOf shape.dropLast (.list (cells.map .number))
    else throw (.block (.unfilled [cells.length] shape))

/-- The first cell of a block; where there is none, a zero. -/
def firstCell : Datum Cell → Datum Cell
  | .list [] => .number (.ok 0)
  | .list (c :: _) => firstCell c
  | c => c

namespace ArrayType

/-- Blocks in blocks of single bytes, as one block of these. -/
def lettersIn? (shape : List Nat) : ArrayType → Option (List Nat)
  | elements .letter _ => some shape
  | block more t => t.lettersIn? (shape ++ more)
  | _ => none

mutual

/-- The type in writing. -/
def text : ArrayType → String
  | elements t reversed => Text.quoted (t.code reversed)
  | block shape t => t.text ++ ", " ++ shapeText ", " shape
  | fields fs => "[" ++ joined ", " (fieldTexts fs) ++ "]"

def fieldTexts : List (String × ArrayType) → List String
  | [] => []
  | (name, t) :: rest => ("(" ++ Text.quoted name ++ ", " ++ t.text ++ ")") :: fieldTexts rest

end

mutual

/-- A single item as what stands for it in an array. Of several fields only their errors remain, and
of a block in a single one its first cell. -/
def pack (i : Item) : ArrayType → Except ItemError (Datum Cell)
  | elements t _ => .number <$> t.pack i
  | block shape t =>
    match t.lettersIn? shape, i with
    | some shape, .text s => blockOfLetters shape s
    | _, i => blockOf shape <$> t.pack i
  | fields fs => do
    match ← packFields i fs with
    | [c] => return firstCell c
    | _ => return .null

def packFields (i : Item) : List (String × ArrayType) → Except ItemError (List (Datum Cell))
  | [] => .ok []
  | (_, t) :: rest => do
    let c ← t.pack i
    return c :: (← packFields i rest)

end

/-- The type of the elements that are to become doubles: those of blocks, or what the array has. -/
def core : ArrayType → ArrayType
  | block _ t => t.core
  | t => t

/-- Items of the type are numbers, if they are fields in fields at all. -/
def isCastable : ArrayType → Bool
  | elements .. => true
  | block _ t => t.isCastable
  | fields [(_, t)] => t.isCastable
  | fields _ => false

/-- Refuses items with more or less than one field. -/
def checkCast (t : ArrayType) : Except ItemError Unit :=
  if t.isCastable then .ok () else .error (.uncastable t.core.text)

/-- The elements stay what they are. -/
def isAny : ArrayType → Bool
  | elements .any _ => true
  | _ => false

/-- Points in time, of which nothing tells in what unit they are counted. -/
def isUnitless : ArrayType → Bool
  | elements (.instant unit) _ => unit.isEmpty
  | _ => false

/-- Items are blocks that take no bytes. -/
def isEmptyBlock : ArrayType → Bool
  | block shape t => (block shape t).bytes = 0
  | _ => false

def isLetter : ArrayType → Bool
  | elements .letter _ => true
  | _ => false

end ArrayType

mutual

/-- Lists of items, to a depth, as an array. -/
def packItem (t : ArrayType) : (depth : Nat) → Item → Except ItemError (Datum Cell)
  | 0, i => t.pack i
  | depth + 1, .list items => do return .list (← packItems t depth items)
  | _ + 1, i => t.pack i

def packItems (t : ArrayType) (depth : Nat) : List Item → Except ItemError (List (Datum Cell))
  | [] => .ok []
  | i :: rest => do
    let c ← packItem t depth i
    return c :: (← packItems t depth rest)

end

mutual

/-- The elements of an array as doubles. -/
def castCells : Datum Cell → Except ItemError (Datum Number)
  | .list cs => do return .list (← castAll cs)
  | .number c => do return .number (.double (← c))
  | _ => .ok .null

def castAll : List (Datum Cell) → Except ItemError (List (Datum Number))
  | [] => .ok []
  | c :: rest => do
    let d ← castCells c
    return d :: (← castAll rest)

end

mutual

/-- The texts in nested lists. -/
def textsOf : Item → List String
  | .text s => [s]
  | .list items => textsOfAll items
  | _ => []

def textsOfAll : List Item → List String
  | [] => []
  | i :: rest => textsOf i ++ textsOfAll rest

end

/-- The longest unit in which all points in time can be told that texts tell. -/
def commonUnit (texts : List String) : String :=
  let told := texts.filterMap fun s => (Moment.ofText s).toOption.map (·.1.unit)
  (timeUnits.reverse.find? told.contains).getD ""

/-- Items as an array of doubles, by way of an array of a type. Elements that stay what they are may
be lists, but no doubles then. Points in time whose unit the type does not tell are counted in the
unit that their texts need. -/
def toArray (t : ArrayType) (i : Item) : Except ItemError (Datum Number) := do
  let t := if t.isUnitless then .elements (.instant (commonUnit (textsOf i))) false
    else if t.isEmptyBlock then .elements (.raw none) false else t
  let i := if t.isLetter then spelledItem i else i
  let depth ← if t.isAny then pure (Survey.of i).depth else Survey.check i
  let cells ← packItem t depth i
  t.checkCast
  castCells cells

/-- Items as a list of doubles; a single item makes a list of one. Nothing is the result when there
are more dimensions than one. -/
def toDoubles (i : Item) : Except ItemError (Option (List Float)) := do
  match i with
  | .list items => do
    discard (Survey.check i)
    if items.any fun i => match i with
        | .list _ => true
        | _ => false then
      discard (toArray (.elements .double false) i)
      return none
    else return some (← items.mapM Element.toDouble)
  | i => return some [← Element.toDouble i]

end Milp.Numeric
