import Milp.Number.Places
import Milp.Number
import Milp.Text.Point

/-!
# Specifications of form

A specification tells the form in which a value stands in a text: a character that fills it up to a
width and on which side, the sign of numbers, marks that group digits, a number of places, and a
letter for the type. It is read from a text, and texts, integers and doubles are written by it. All
of this works on code points.
-/

namespace Milp

open Text

/-! ### Errors -/

/-- What a specification can ask for. -/
inductive Feature where
  | sign
  | blankSign
  /-- Zero has no sign. -/
  | unsignedZero
  | alternate
  /-- What fills a number stands behind its sign. -/
  | innerFill
  | places
  deriving DecidableEq, Repr

def Feature.name : Feature → String
  | sign => "Sign"
  | blankSign => "Space"
  | unsignedZero => "Negative zero coercion (z)"
  | alternate => "Alternate form (#)"
  | innerFill => "'=' alignment"
  | places => "Precision"

/-- What is written by a specification. -/
inductive Subject where
  | text
  | integer
  /-- An integer in the form of the character of which it is the number. -/
  | character
  deriving DecidableEq, Repr

/-- Why nothing can be written by a specification. -/
inductive SpecificationError where
  | tooManyDigits
  | noPlaces
  | tooManyPlaces
  | twoSeparators
  | separatorFor (separator : Char) (type : Nat)
  | malformed (written kind : String)
  | unknownType (type : Nat) (kind : String)
  | refused (feature : Feature) (subject : Subject)
  | noCharacter
  | scalar (e : ScalarError)
  deriving DecidableEq, Repr

namespace SpecificationError

/-- A letter as it stands in a message. -/
def letterText (type : Nat) : String :=
  if 32 < type ∧ type < 128 then (Char.ofNat type).toString
  else "\\x" ++ String.ofList (Nat.toDigits 16 type)

def message : SpecificationError → String
  | tooManyDigits => "Too many decimal digits in format string"
  | noPlaces => "Format specifier missing precision"
  | tooManyPlaces => "precision too big"
  | twoSeparators => "Cannot specify both ',' and '_'."
  | separatorFor separator type =>
    "Cannot specify '" ++ separator.toString ++ "' with '" ++ letterText type ++ "'."
  | malformed written kind =>
    "Invalid format specifier '" ++ written ++ "' for object of type '" ++ kind ++ "'"
  | unknownType type kind =>
    "Unknown format code '" ++ letterText type ++ "' for object of type '" ++ kind ++ "'"
  | refused feature .text => feature.name ++ " not allowed in string format specifier"
  | refused feature .integer => feature.name ++ " not allowed in integer format specifier"
  | refused feature .character => feature.name ++ " not allowed with integer format specifier 'c'"
  | noCharacter => "%c arg not in range(0x110000)"
  | scalar e => e.message

def errorClass : SpecificationError → ErrorClass
  | noCharacter => .overflow
  | scalar e => e.errorClass
  | _ => .value

end SpecificationError

/-! ### Reading -/

/-- How a value stands in a text. A type of zero is the one that comes without a letter. -/
structure Specification where
  fill : Nat
  align : Char
  sign? : Option Char
  unsignedZero : Bool
  alternate : Bool
  width : Nat
  separator? : Option Char
  places? : Option Nat
  type : Nat

namespace Specification

/-- The code point is that of one of some characters. -/
def isOneOf (cs : String) (p : Nat) : Bool := cs.toList.any fun c => c.toNat = p

def isAlign (p : Nat) : Bool := isOneOf "<>=^" p

/-- The first code point, if it passes a test, and the others. -/
def takeOne (test : Nat → Bool) : List Nat → Option Char × List Nat
  | p :: ps => if test p then (some (Char.ofNat p), ps) else (none, p :: ps)
  | [] => (none, [])

/-- A number in digits at the start, if there is one, and what follows it. -/
def takeNumber (ps : List Nat) : Except SpecificationError (Option Nat × List Nat) :=
  let digits := ps.takeWhile fun p => isDigit (Char.ofNat p)
  let n := digitsValue (digits.map Char.ofNat)
  if twoPow 63 ≤ n then .error .tooManyDigits
  else .ok (if digits.isEmpty then none else some n, ps.drop digits.length)

/-- What fills a value and on which side. -/
def takeFill : List Nat → Option Nat × Option Char × List Nat
  | p :: q :: ps =>
    if isAlign q then (some p, some (Char.ofNat q), ps)
    else if isAlign p then (none, some (Char.ofNat p), q :: ps)
    else (none, none, p :: q :: ps)
  | [p] => if isAlign p then (none, some (Char.ofNat p), []) else (none, none, [p])
  | [] => (none, none, [])

/-- The marks that can group the digits of numbers of a type. -/
def fitsSeparator (separator : Char) (type : Nat) : Bool :=
  type = 0 || isOneOf "defgEG%F" type || separator = '_' && isOneOf "boxX" type

/-- Reads the mark that groups digits. -/
def takeSeparator (ps : List Nat) : Except SpecificationError (Option Char × List Nat) :=
  match ps with
  | 0x2C :: 0x5F :: _ | 0x5F :: 0x2C :: _ => .error .twoSeparators
  | 0x2C :: ps => .ok (some ',', ps)
  | 0x5F :: ps => .ok (some '_', ps)
  | ps => .ok (none, ps)

/-- Reads a specification for values of a kind. The side on which they stand and the type that they
have if none is given are told. -/
def read (kind : String) (align : Char) (type : Nat) (whole : List Nat) :
    Except SpecificationError Specification := do
  let (fill?, align?, ps) := takeFill whole
  let (sign?, ps) := takeOne (isOneOf " +-") ps
  let (zero?, ps) := takeOne (isOneOf "z") ps
  let (alternate?, ps) := takeOne (isOneOf "#") ps
  let (filler?, ps) := takeOne (fun p => fill?.isNone && isOneOf "0" p) ps
  let align := match align?, filler? with
    | none, some _ => if align = '>' then '=' else align
    | align?, _ => align?.getD align
  let (width?, ps) ← takeNumber ps
  let (separator?, ps) ← takeSeparator ps
  let (places?, ps) ← match ps with
    | 0x2E :: ps => do
      match ← takeNumber ps with
      | (none, _) => throw .noPlaces
      | r => pure r
    | ps => pure (none, ps)
  let type ← match ps with
    | [] => pure type
    | [p] => pure p
    | _ => throw (.malformed (Text.ofPoints whole) kind)
  if let some separator := separator? then
    if !fitsSeparator separator type then throw (.separatorFor separator type)
  return ⟨fill?.getD (if filler?.isSome then 0x30 else 0x20), align, sign?, zero?.isSome,
    alternate?.isSome, width?.getD 0, separator?, places?, type⟩

/-! ### Writing -/

/-- What stands in front of a value and the value itself, with what fills the width. -/
def laidOut (s : Specification) (lead body : List Nat) : List Nat :=
  let missing := s.width - (lead.length + body.length)
  let row := fun n => List.replicate n s.fill
  match s.align with
  | '<' => lead ++ body ++ row missing
  | '^' => row (missing / 2) ++ lead ++ body ++ row (missing - missing / 2)
  | '=' => lead ++ row missing ++ body
  | _ => row missing ++ lead ++ body

/-- A text, of which only so many code points are kept as there are places. -/
def text (s : Specification) (kind : String) (ps : List Nat) :
    Except SpecificationError (List Nat) := do
  if !isOneOf "s" s.type then throw (.unknownType s.type kind)
  let refuse := fun feature => throw (.refused feature .text)
  if let some c := s.sign? then refuse (if c = ' ' then .blankSign else .sign)
  if s.unsignedZero then refuse .unsignedZero
  if s.alternate then refuse .alternate
  if s.align = '=' then refuse .innerFill
  return s.laidOut [] (ps.take (s.places?.getD ps.length))

/-- Digits in groups of a size with a separator between them, from the last one on. There are zeros
in front, to have a length. The digits are given in reverse, and so is the result; the fuel is used
up by one for every group. -/
def grouped (separator : Char) (size : Nat) : (fuel length : Nat) → List Char → List Char
  | 0, _, ds => ds
  | fuel + 1, length, ds =>
    let count := min size (max 1 (max ds.length length))
    let group := ds.take count ++ List.replicate (count - ds.length) '0'
    if ds.length ≤ count && length ≤ count then group
    else group ++ separator :: grouped separator size fuel (length - count - 1) (ds.drop count)

/-- The sign of a number. -/
def signOf (s : Specification) (negative : Bool) : List Char :=
  if negative then ['-']
  else match s.sign? with
    | some '+' => ['+']
    | some ' ' => [' ']
    | _ => []

/-- A number: its sign, a mark for its base, digits that can be grouped, and what follows them. -/
def number (s : Specification) (negative : Bool) (mark digits rest : List Char) : List Nat :=
  let lead := s.signOf negative ++ mark
  let length :=
    if s.fill = 0x30 ∧ s.align = '=' then s.width - (lead.length + rest.length) else 0
  let digits := match digits.isEmpty, s.separator? with
    | true, _ => []
    | false, none => List.replicate (length - digits.length) '0' ++ digits
    | false, some c =>
      let size := if isOneOf "boxX" s.type then 4 else 3
      (grouped c size (digits.length + length + 1) length digits.reverse).reverse
  s.laidOut (lead.map Char.toNat) ((digits ++ rest).map Char.toNat)

/-- The digits at the start of a number without a sign, and what follows them. -/
def splitDigits (cs : List Char) : List Char × List Char :=
  (cs.takeWhile Char.isDigit, cs.dropWhile Char.isDigit)

/-- A double in digits, without its sign. Where no type is given, there are places after the point or
an exponent in any case. -/
def realDigits (s : Specification) (type : Char) (num den : Nat) (plain : List Char) :
    List Char :=
  match type, s.places? with
  | 'e', places? => Double.withExponent s.alternate (places?.getD 6) num den
  | 'f', places? => Double.withPlaces s.alternate (places?.getD 6) num den
  | 'g', places? => Double.withDigits s.alternate false (places?.getD 6) num den
  | _, some places => Double.withDigits s.alternate true places num den
  | _, none =>
    let (front, back) := splitDigits plain
    if s.alternate && back.head? ≠ some '.' then front ++ '.' :: back else plain

/-- A double. -/
def double (s : Specification) (kind : String) (x : Float) :
    Except SpecificationError (List Nat) := do
  if !(s.type = 0 || isOneOf "eEfFgGn%" s.type) then throw (.unknownType s.type kind)
  if twoPow 31 ≤ s.places?.getD 0 then throw .tooManyPlaces
  let letter := Char.ofNat s.type
  let isShare := letter = '%'
  let type := if isShare then 'f' else if letter = 'n' then 'g' else letter.toLower
  let x := if isShare then x * 100 else x
  let (negative, body) := match Double.parts x with
    | .nan => (false, "nan".toList)
    | .infinite negative => (negative, "inf".toList)
    | .finite negative m q =>
      let (num, den) := Double.unscale m 1 (-q)
      let body := s.realDigits type num den (Double.text x.abs).toList
      let isZero := (body.takeWhile (· ≠ 'e')).all fun c => c = '0' || c = '.'
      (negative && !(s.unsignedZero && isZero), body)
  let body := if letter.isUpper then body.map Char.toUpper else body
  let (digits, rest) := splitDigits body
  return s.number negative [] digits (rest ++ if isShare then ['%'] else [])

/-- The base of the digits of an integer, and the letter that stands for it. -/
def baseOf (type : Char) : Nat × Option Char :=
  match type with
  | 'b' => (2, some 'b')
  | 'o' => (8, some 'o')
  | 'x' => (16, some 'x')
  | 'X' => (16, some 'X')
  | _ => (10, none)

/-- An integer. -/
def integer (s : Specification) (kind : String) (n : Int) :
    Except SpecificationError (List Nat) := do
  if isOneOf "eEfFgG%" s.type then
    s.double kind (← (Number.whole n).toDouble.mapError .scalar)
  else if !isOneOf "bcdoxXn" s.type then throw (.unknownType s.type kind)
  else do
    if s.places?.isSome then throw (.refused .places .integer)
    if s.unsignedZero then throw (.refused .unsignedZero .integer)
    if isOneOf "c" s.type then
      if s.sign?.isSome then throw (.refused .sign .character)
      if s.alternate then throw (.refused .alternate .character)
      discard ((Number.wordOfInt n).mapError .scalar)
      if n < 0 ∨ 0x110000 ≤ n then throw .noCharacter
      return s.laidOut [] [n.toNat]
    let (base, letter?) := baseOf (Char.ofNat s.type)
    if base = 10 then discard ((Number.whole n).writtenOut.mapError .scalar)
    let digits := Nat.toDigits base n.natAbs
    let digits := if letter? = some 'X' then digits.map Char.toUpper else digits
    let mark := if s.alternate then (letter?.map fun c => ['0', c]).getD [] else []
    return s.number (n < 0) mark digits []

end Specification

end Milp
