import Milp.Name
import Milp.Numeric.Element
import Milp.Numeric.Repetition
import Milp.Numeric.Time
import Milp.Quantity
import Milp.Text.Quoted

/-!
# Names of element types

The type of an array is given by a word, by a letter for its kind with the number of its bytes, by a
list of such names with counts of repetition in front of them, or by data that name the fields of
every item. A sign in front of a name gives the order of the bytes.
-/

namespace Milp.Numeric

open Text

/-- Why a value names no type. -/
inductive TypeNameError where
  /-- The name is not known; it is given in quotes. -/
  | unknown (quoted : String)
  /-- The name is one that used to be known. -/
  | removed (quoted : String)
  /-- What should name a type is no name. -/
  | notAName (written : String)
  /-- One of the names in a list is no name. -/
  | badFormat (number : Nat) (text : String)
  | inconsistentOrder (first second : String)
  | repetition (e : RepetitionError)
  | badUnit (text : String)
  /-- The unit stops making sense at a place, if it starts to. -/
  | badUnitAt (text : String) (place : Nat)
  /-- The unit has no such part that is a number of shorter units. -/
  | badDivisor (divisor : Int) (text : String)
  /-- A part was asked for of no unit at all. -/
  | dividedNothing
  /-- A field is no tuple of its name and its type. -/
  | notAField (written : String)
  /-- A field is a tuple with too many items. -/
  | longField (written : String)
  /-- The name of a field is no text. -/
  | badFieldName
  | fieldNameNotText
  | repeatedField (quoted : String)
  | reusedName
  | tupleSize (size : Nat)
  | badWidth
  | badShape
  /-- A length of a block is too large. -/
  | lengthTooLarge
  /-- A block takes too many bytes. -/
  | sizeTooLarge
  /-- A list of names has no name. -/
  | noFields
  /-- An array stands where a name should. -/
  | isArray
  /-- The bytes of a record that were asked for are less than those that it needs. -/
  | recordTooSmall (needed wanted : Int)
  | negativeOffset (offset : Int)
  /-- What should be an integer is a value of the kind. -/
  | notAnInteger (kind : String)
  /-- A truth value stands where an integer should. -/
  | integerRequired
  | integerTooLong
  | badAlignment
  | sizeMismatch
  /-- A field of a record is no tuple of its type and its place. -/
  | notAnEntry
  | notSized (kind : String)
  | fieldCounts
  deriving DecidableEq, Repr

def TypeNameError.message : TypeNameError → String
  | .unknown quoted => "data type " ++ quoted ++ " not understood"
  | .removed quoted =>
    "Alias " ++ quoted ++ " was removed in NumPy 2.0. Use a name without a digit at the end."
  | .notAName written => "Cannot interpret '" ++ written ++ "' as a data type"
  | .badFormat number text =>
    "format number " ++ toString number ++ " of \"" ++ text ++ "\" is not recognized"
  | .inconsistentOrder first second =>
    "inconsistent byte-order specification " ++ first ++ " and " ++ second
  | .repetition e => e.message
  | .badUnit text => "Invalid datetime unit in metadata string \"" ++ text ++ "\""
  | .badUnitAt text place =>
    "Invalid datetime metadata string \"" ++ text ++ "\"" ++
      if place = 0 then "" else " at position " ++ toString place
  | .badDivisor divisor text =>
    "divisor (" ++ integerText divisor ++
      ") is not a multiple of a lower-unit in datetime metadata \"" ++ text ++ "\""
  | .dividedNothing => "Can't use 'den' divisor with generic units"
  | .notAField written => "Field elements must be 2- or 3-tuples, got '" ++ written ++ "'"
  | .longField written =>
    "Field elements must be tuples with at most 3 elements, got '" ++ written ++ "'"
  | .badFieldName => "First element of field tuple is neither a tuple nor str"
  | .fieldNameNotText => "field names must be strings"
  | .repeatedField quoted => "field " ++ quoted ++ " occurs more than once"
  | .reusedName => "name already used as a name or title"
  | .tupleSize size => "Tuple must have size 2, but has size " ++ toString size
  | .badWidth => "invalid itemsize in generic type tuple"
  | .badShape => "invalid shape in fixed-type tuple."
  | .lengthTooLarge =>
    "invalid shape in fixed-type tuple: dimension does not fit into a C int."
  | .sizeTooLarge =>
    "invalid shape in fixed-type tuple: dtype size in bytes must fit into a C int."
  | .noFields => "Expected at least one field name"
  | .isArray => "Cannot construct a dtype from an array"
  | .recordTooSmall needed wanted =>
    "NumPy dtype descriptor requires " ++ toString needed ++
      " bytes, cannot override to smaller itemsize of " ++ toString wanted
  | .negativeOffset offset => "offset " ++ toString offset ++ " cannot be negative"
  | .notAnInteger kind => "'" ++ kind ++ "' object cannot be interpreted as an integer"
  | .integerRequired => "an integer is required"
  | .integerTooLong => "integer won't fit into a C int"
  | .badAlignment =>
    "NumPy dtype descriptor has 'aligned' entry, but value is neither True nor False"
  | .sizeMismatch => "mismatch in size of old and new data-descriptor"
  | .notAnEntry => "entry not a 2- or 3- tuple"
  | .notSized kind => "object of type '" ++ kind ++ "' has no len()"
  | .fieldCounts =>
    "'names', 'formats', 'offsets', and 'titles' dict entries must have the same length"

def TypeNameError.errorClass : TypeNameError → ErrorClass
  | .unknown _ | .removed _ | .notAName _ | .badUnit _ | .badUnitAt .. | .notAField _ | .longField _
  | .badFieldName | .tupleSize _ | .notSized _ | .isArray | .notAnInteger _
  | .integerRequired => .kind
  | .repetition _ => .grammar
  | .badFormat .. | .inconsistentOrder .. | .fieldNameNotText | .repeatedField _ | .reusedName
  | .badWidth | .badShape | .lengthTooLarge | .sizeTooLarge | .sizeMismatch | .notAnEntry
  | .fieldCounts | .noFields | .recordTooSmall .. | .negativeOffset _ | .integerTooLong
  | .badAlignment | .badDivisor .. | .dividedNothing => .value

/-! ### Letters, codes and words -/

namespace Element

/-- A type that is named by a single letter. -/
def ofLetter? : Char → Option Element
  | '?' => some truth
  | 'b' => some (integer true 8)
  | 'B' => some (integer false 8)
  | 'h' => some (integer true 16)
  | 'H' => some (integer false 16)
  | 'i' => some (integer true 32)
  | 'I' => some (integer false 32)
  | 'l' | 'q' | 'p' | 'n' => some (integer true 64)
  | 'L' | 'Q' | 'P' | 'N' => some (integer false 64)
  | 'e' => some half
  | 'f' => some single
  | 'd' => some double
  | 'g' => some extended
  | 'F' => some (complex 8)
  | 'D' => some (complex 16)
  | 'G' => some (complex 32)
  | 'O' => some any
  | 'U' => some (text false none)
  | 'S' => some (text true none)
  | 'c' => some letter
  | 'T' => some words
  | 'V' => some (raw none)
  | 'm' => some (span "")
  | 'M' => some (instant "")
  | _ => none

/-- The letters of the types in the order of their numbers. A character may name a type by its
number too. -/
def letters : List Char :=
  ['?', 'b', 'B', 'h', 'H', 'i', 'I', 'l', 'L', 'q', 'Q', 'f', 'd', 'g', 'F', 'D', 'G', 'O', 'S',
    'U', 'V', 'M', 'm', 'e']

/-- A type that is named by a single character. -/
def ofChar? (c : Char) : Option Element := ofLetter? (letters[c.toNat]?.getD c)

/-- The type of a kind with a size in bytes or, for characters, in characters. -/
def ofCode? (kind : Char) (size : Nat) : Option Element :=
  match kind, size with
  | 'b', 1 => some truth
  | 'i', 1 | 'i', 2 | 'i', 4 | 'i', 8 => some (integer true (8 * size))
  | 'u', 1 | 'u', 2 | 'u', 4 | 'u', 8 => some (integer false (8 * size))
  | 'f', 2 => some half
  | 'f', 4 => some single
  | 'f', 8 => some double
  | 'f', 16 => some extended
  | 'c', 8 | 'c', 16 | 'c', 32 => some (complex size)
  | 'O', 4 | 'O', 8 => some any
  | 'm', 8 => some (span "")
  | 'M', 8 => some (instant "")
  | 'S', n | 'a', n => some ((text true none).withWidth n)
  | 'U', n => if twoPow 29 ≤ n then none else some ((text false none).withWidth n)
  | 'V', n => some ((raw none).withWidth n)
  | _, _ => none

/-- A type that is named by a word. -/
def ofWord? : String → Option Element
  | "bool" | "bool_" => some truth
  | "int8" | "byte" => some (integer true 8)
  | "int16" | "short" => some (integer true 16)
  | "int32" | "intc" => some (integer true 32)
  | "int64" | "int" | "int_" | "long" | "longlong" | "intp" => some (integer true 64)
  | "uint8" | "ubyte" => some (integer false 8)
  | "uint16" | "ushort" => some (integer false 16)
  | "uint32" | "uintc" => some (integer false 32)
  | "uint64" | "uint" | "ulong" | "ulonglong" | "uintp" => some (integer false 64)
  | "float16" | "half" => some half
  | "float32" | "single" => some single
  | "float64" | "float" | "double" => some double
  | "float128" | "longdouble" => some extended
  | "complex64" | "csingle" => some (complex 8)
  | "complex128" | "complex" | "cdouble" => some (complex 16)
  | "complex256" | "clongdouble" => some (complex 32)
  | "object" | "object_" => some any
  | "str" | "str_" | "unicode" => some (text false none)
  | "bytes" | "bytes_" | "a" => some (text true none)
  | "void" => some (raw none)
  | _ => none

/-- The words that used to name types. -/
def removedWords : List String :=
  ["int0", "uint0", "void0", "object0", "str0", "bytes0", "bool8"]

end Element

/-! ### Units of time -/

/-- An integer at the start of a text, with blanks and a sign in front of it, and what follows it.
-/
def leadingInteger? (cs : List Char) : Option (Int × List Char) :=
  let (negative, ds) := match cs.dropWhile fun c => c = ' ' || (9 ≤ c.toNat && c.toNat ≤ 13) with
    | '-' :: ds => (true, ds)
    | '+' :: ds => (false, ds)
    | ds => (false, ds)
  let digits := ds.takeWhile Char.isDigit
  let n : Int := digitsValue digits
  if digits.isEmpty then none
  else some (if negative then -n else n, ds.drop digits.length)

/-- A number of units in writing; one of them is the unit by itself. -/
def countedUnit (count : Int) (unit : String) : String :=
  if unit = "generic" then "" else (if count = 1 then "" else integerText count) ++ unit

/-- The unit between brackets: a count, the name of a unit, and a divisor after a slash. `text` is all
of it, of which one character stands in front. -/
def readInnerUnit (text : String) (inner : List Char) : Except TypeNameError String := do
  let placeOf := fun left : List Char =>
    1 + (String.ofList inner).utf8ByteSize - (String.ofList left).utf8ByteSize
  let (count, rest) := (leadingInteger? inner).getD (1, inner)
  if count < 0 ∨ twoPow 31 ≤ count then throw (.badUnitAt text 1)
  let name := rest.takeWhile (· ≠ '/')
  if name.isEmpty then throw (.badUnitAt text (placeOf rest))
  let unit := if name = ['μ', 's'] then "us" else String.ofList name
  if !("generic" :: timeUnits).contains unit then throw (.badUnit text)
  match rest.drop name.length with
  | [] => return countedUnit count unit
  | _ :: rest =>
    match leadingInteger? rest with
    | some (1, []) => return countedUnit count unit
    | some (divisor, []) =>
      if unit = "generic" then throw .dividedNothing
      match unitPart? unit divisor with
      | some (part, shorter) => return countedUnit (count * part) shorter
      | none => throw (.badDivisor divisor text)
    | _ => throw (.badUnitAt text (placeOf rest))

/-- The unit in brackets after the name of a type of times. -/
def readUnit (text : String) : Except TypeNameError String :=
  match text.toList with
  | [] => .ok ""
  | c :: cs =>
    let inner := cs.takeWhile (· ≠ ']')
    let behind := (String.ofList inner).utf8ByteSize + 1
    if text.utf8ByteSize < 3 then .error (.badUnitAt text 0)
    else if c ≠ '[' then .error (.badUnitAt text 1)
    else if inner.isEmpty || inner.length = cs.length then .error (.badUnitAt text behind)
    else do
      let unit ← readInnerUnit text inner
      if inner.length + 1 ≠ cs.length then throw (.badUnitAt text (behind + 1))
      return unit

/-- The text after a word at the start of another one. -/
def afterWord? (word : String) (cs : List Char) : Option String :=
  if word.toList.isPrefixOf cs then some (String.ofList (cs.drop word.length)) else none

/-- A type of times with the text that names its unit. -/
def timeType? (cs : List Char) : Option ((String → Element) × String) :=
  ((afterWord? "M8" cs <|> afterWord? "datetime64" cs).map (Element.instant, ·)) <|>
    ((afterWord? "m8" cs <|> afterWord? "timedelta64" cs).map (Element.span, ·))

/-! ### Names -/

/-- The signs for the order of the bytes. -/
def isOrder (c : Char) : Bool := c = '<' || c = '>' || c = '=' || c = '|'

/-- The bytes are in reverse order. -/
def isReversed (order : Option Char) : Bool := order = some '>'

/-- A size after a letter: digits, with blanks and a sign in front of them. -/
def readSize? (cs : List Char) : Option Nat := do
  let digits := match cs.dropWhile fun c => c = ' ' || (9 ≤ c.toNat && c.toNat ≤ 13) with
    | '+' :: ds => ds
    | ds => ds
  guard (!digits.isEmpty && digits.all Char.isDigit)
  let n := digitsValue digits
  if n < twoPow 31 then some n else none

/-- The type of a name that stands alone. -/
def ofSingleName (name : String) : Except TypeNameError ArrayType :=
  let (order, cs) := match name.toList with
    | c :: cs => if isOrder c then (some c, cs) else (none, c :: cs)
    | [] => (none, [])
  let elements := fun t => Except.ok (ArrayType.elements t (isReversed order))
  match cs, timeType? cs with
  | [], _ => .error (.unknown (quoted name))
  | _, some (type, unit) => do elements (type (← readUnit unit))
  | c :: rest, none =>
    let short := if rest.isEmpty then Element.ofChar? c
      else (readSize? rest).bind (Element.ofCode? c)
    match short, Element.ofWord? name with
    | some t, _ => elements t
    | none, some t => .ok (.elements t false)
    | none, none =>
      if Element.removedWords.contains (String.ofList cs) then .error (.removed (quoted name))
      else .error (.unknown (quoted name))

/-! ### Lists of names -/

/-- A name in a list, with what stands in front of it. -/
structure Format where
  /-- The name, with the sign for the order of the bytes. -/
  name : String
  count : Repetition

/-- The characters that satisfy a test at the start of a text, if it is the test of a single one. -/
def takeOne (p : Char → Bool) : List Char → List Char × List Char
  | c :: cs => if p c then ([c], cs) else ([], c :: cs)
  | [] => ([], [])

/-- The name of a type with a unit in brackets. -/
def takeName (cs : List Char) : List Char × List Char :=
  let isPlain := fun c : Char => c.isAlphanum || c = '.' || c = '?'
  let word := cs.takeWhile isPlain
  let rest := cs.dropWhile isPlain
  match rest with
  | '[' :: inner =>
    let unit := inner.takeWhile fun c => c.isAlphanum || c = ',' || c = '.'
    match unit, inner.drop unit.length with
    | _ :: _, ']' :: rest => (word ++ '[' :: unit ++ [']'], rest)
    | _, _ => (word, rest)
  | _ => (word, rest)

/-- The order of the bytes that signs on both sides of a count give. -/
def joinOrders (first second : List Char) : Except TypeNameError String := do
  let plain := fun cs : List Char => String.ofList (if cs = ['='] then ['<'] else cs)
  if !first.isEmpty && !second.isEmpty && plain first ≠ plain second then
    throw (.inconsistentOrder (plain first) (plain second))
  let order := plain (if second.isEmpty then first else second)
  return if order = "|" ∨ order = "<" then "" else order

/-- A blank as the separators of a list have it around them. -/
def isSpace (c : Char) : Bool := isBlank c

/-- The formats of a list, each up to the comma after it. The fuel is the length of the text. -/
def readFormats (whole : String) : (fuel : Nat) → (number : Nat) → List Char →
    Except TypeNameError (List Format × Bool)
  | 0, _, _ => .ok ([], false)
  | _, _, [] => .ok ([], false)
  | fuel + 1, number, cs => do
    let isSign := fun c : Char => c = '<' || c = '>' || c = '|' || c = '='
    let (first, cs) := takeOne isSign cs
    let blanks := cs.takeWhile (· = ' ')
    let (opening, rest) := takeOne (· = '(') (cs.drop blanks.length)
    let body := rest.takeWhile fun c => c = ' ' || c = ',' || c.isDigit
    let (closing, rest) := takeOne (· = ')') (rest.drop body.length)
    let margin := rest.takeWhile (· = ' ')
    let (second, rest) := takeOne isSign (rest.drop margin.length)
    let (name, rest) := takeName rest
    let isLast := rest.all isSpace
    let afterBlanks := rest.dropWhile isSpace
    let (next, isList) ← match isLast, afterBlanks with
      | true, _ => pure ([], false)
      | false, ',' :: rest => pure (rest.dropWhile isSpace, true)
      | false, _ => throw (.badFormat number whole)
    let order ← joinOrders first second
    let count ← (Repetition.ofText (blanks ++ opening ++ body ++ closing ++ margin)).mapError
      .repetition
    let (formats, isLonger) ← readFormats whole fuel (number + 1) next
    return (⟨order ++ String.ofList name, count⟩ :: formats, isList || isLonger)

/-- A comma stands outside of brackets. -/
def hasComma : (depth : Int) → List Char → Bool
  | _, [] => false
  | depth, c :: cs =>
    c = ',' && depth = 0 ||
      hasComma (if c = '[' then depth + 1 else if c = ']' then depth - 1 else depth) cs

/-- The text is a list of names, or a name with a count in front of it. -/
def isNameList (cs : List Char) : Bool :=
  let counts := fun (cs : List Char) => match cs with
    | '(' :: ')' :: _ => true
    | c :: _ => c.isDigit
    | [] => false
  counts cs || (match cs with
    | c :: cs => isOrder c && counts cs && (cs.head? ≠ some '(' || 2 < cs.length)
    | [] => false) || hasComma 0 cs

/-- The number of bytes that nothing may take. -/
def tooManyBytes : Nat := twoPow 31

/-- The greatest number of dimensions of a block. -/
def mostDimensions : Nat := 64

/-- A block of a shape. -/
def ofShape (t : ArrayType) (shape : List Nat) : Except TypeNameError ArrayType :=
  if mostDimensions < shape.length || shape.any (twoPow 63 ≤ ·) then .error .badShape
  else if shape.any (tooManyBytes ≤ ·) then .error .lengthTooLarge
  else
    let u := ArrayType.block shape t
    if tooManyBytes ≤ shape.foldl (· * ·) 1 || tooManyBytes ≤ u.bytes then .error .sizeTooLarge
    else .ok u

/-- A type with a count of repetition in front of it. A type without a size takes the count as its
size. -/
def counted (t : ArrayType) : Repetition → Except TypeNameError ArrayType
  | .once => .ok t
  | .number n =>
    if !t.isUnsized then ofShape t [n]
    else
      match t with
      | .elements e reversed =>
        let size := (e.withWidth n).bytes
        if tooManyBytes ≤ max n size then .error .badWidth
        else .ok (.elements (e.withWidth n) reversed)
      | t => .ok t
  | .shape ns =>
    if t.isUnsized then .error .badWidth else if ns.isEmpty then .ok t else ofShape t ns

/-- The name that a field has by its place. -/
def placeName (place : Nat) : String := "f" ++ toString place

/-- The type of a text. A name in a list is shorter than the list, and the fuel is the length of the
text. -/
def ofTypeText : (fuel : Nat) → String → Except TypeNameError ArrayType
  | 0, name => .error (.unknown (quoted name))
  | fuel + 1, name =>
    if !isNameList name.toList then ofSingleName name
    else do
      let (formats, isList) ← readFormats name name.length 1 name.toList
      let last := formats.getLast?
      let isDropped := isList && last.any fun f => f.name.isEmpty && f.count = .once
      let formats := if isDropped then formats.dropLast else formats
      if formats.isEmpty then throw .noFields
      let types ← formats.mapM fun f => do counted (← ofTypeText fuel f.name) f.count
      match types, isList with
      | [t], false => return t
      | types, _ => return .fields (types.zipIdx.map fun t => (placeName t.2, t.1))

/-! ### Values as names -/

mutual

/-- A value that is to name a type, with its kind and its written form. -/
inductive TypeForm where
  | mk (kind written : String) (content : TypeContent)

inductive TypeContent where
  | null
  | text (s : String)
  | quantity (a : Quantity)
  | tuple (items : List TypeForm)
  | list (items : List TypeForm)
  | record (fields : List (String × TypeForm))
  /-- A type of elements itself. -/
  | type (t : Element)
  | array
  | other

end

namespace TypeForm

def kind : TypeForm → String
  | mk kind _ _ => kind

def written : TypeForm → String
  | mk _ written _ => written

def content : TypeForm → TypeContent
  | mk _ _ content => content

/-- The type of a number out of an array. -/
def elementOf? (a : Quantity) : Option Element :=
  match a with
  | .mark _ => some .truth
  | .number (.word _) => some (.integer true 64)
  | .number (.cell _) => some .double
  | .number _ => none

/-- The items of a sequence. -/
def items? (f : TypeForm) : Option (List TypeForm) :=
  match f.content with
  | .tuple items | .list items => some items
  | .text s =>
    some ((singles s).map fun s => mk "str" (quoted s) (.text s))
  | _ => none

/-- The items of a sequence, which has to tell their number. -/
def itemsOf (f : TypeForm) : Except TypeNameError (List TypeForm) :=
  match f.items?, f.content with
  | some items, _ => .ok items
  | none, .record _ => .ok []
  | none, _ => .error (.notSized f.kind)

/-- The text that names a field. -/
def fieldName (place : Nat) (f : TypeForm) : Except TypeNameError String :=
  match f.content with
  | .text "" => .ok (placeName place)
  | .text s => .ok s
  | .tuple [_, mk _ _ (.text s)] => .ok s
  | _ => .error .badFieldName

/-- Fields with names, of which there is each only once. -/
def checkNames (error : String → TypeNameError) :
    List (String × ArrayType) → Except TypeNameError Unit
  | [] => .ok ()
  | (name, _) :: rest => do
    checkNames error rest
    if rest.any (·.1 = name) then throw (error (quoted name))

/-- The integer that a value is, if it is no truth value. -/
def integer? (f : TypeForm) : Option Int :=
  match f.content with
  | .quantity (.number (.whole n)) => some n
  | .quantity (.number (.word n)) => some n.toInt
  | _ => none

/-- The natural number that a value is. -/
def count? (f : TypeForm) : Option Nat :=
  f.integer?.bind fun n => if 0 ≤ n then some n.toNat else none

/-- The shape that a tuple of a type and a shape gives, if it gives one. -/
def shape? (f : TypeForm) : Option Repetition :=
  match f.content with
  | .tuple items | .list items => Repetition.shape <$> items.mapM count?
  | _ => Repetition.number <$> f.count?

/-- An integer that is a number of bytes. -/
def place (f : TypeForm) : Except TypeNameError Int :=
  match f.content, f.integer? with
  | .quantity (.number (.truth _)), _ | .quantity (.mark _), _ => .error .integerRequired
  | _, some n =>
    if n < -tooManyBytes || (tooManyBytes : Int) ≤ n then .error .integerTooLong else .ok n
  | _, none => .error (.notAnInteger f.kind)

/-- The bytes that a record takes. The places of its fields may be given, and a number of bytes that
it is to have at least. -/
def recordSize (fields : List (String × ArrayType)) (offsets? : Option (List TypeForm))
    (size? : Option TypeForm) : Except TypeNameError Unit := do
  let needed ← match offsets? with
    | none => pure ((ArrayType.fields fields).bytes : Int)
    | some offsets => (fields.zip offsets).foldlM (fun size (f, offset) => do
        let n ← offset.place
        if n < 0 then throw (.negativeOffset n)
        return max size (n + f.2.bytes)) 0
  match size? with
  | none => return ()
  | some size => do
    let wanted ← size.place
    if wanted < needed then throw (.recordTooSmall needed wanted)

/-- The type that a value names. The fuel is used up by one for every level of values in values. -/
def type : (fuel : Nat) → TypeForm → Except TypeNameError ArrayType
  | 0, f => .error (.notAName f.written)
  | fuel + 1, f =>
    match f.content with
    | .null => .ok (.elements .double false)
    | .text s => ofTypeText (s.length + 1) s
    | .quantity a =>
      match elementOf? a with
      | some t => .ok (.elements t false)
      | none => .error (.notAName f.written)
    | .type t => .ok (.elements t false)
    | .array => .error .isArray
    | .other => .error (.notAName f.written)
    | .tuple [t, count] => do
      let t ← type fuel t
      match count.content, count.shape?, type fuel count with
      | _, some c, _ => counted t c
      | _, none, .ok u =>
        if t.bytes ≠ 0 && t.bytes ≠ u.bytes then throw .sizeMismatch
        return t
      | _, none, .error _ => throw .badShape
    | .tuple items => .error (.tupleSize items.length)
    | .list items => do
      let fields ← items.zipIdx.mapM fun (item, place) => do
        match item.content with
        | .tuple [name, t] => return (← fieldName place name, ← type fuel t)
        | .tuple [name, t, count] =>
          let name ← fieldName place name
          return (name, ← type fuel (mk "tuple" "" (.tuple [t, count])))
        | .tuple (_ :: _ :: _) => throw (.longField item.written)
        | _ => throw (.notAField item.written)
      checkNames .repeatedField fields
      return .fields fields
    | .record entries =>
      match entries.lookup "names", entries.lookup "formats" with
      | some names, some formats => do
        let names ← names.itemsOf
        let formats ← formats.itemsOf
        let offsets? ← (entries.lookup "offsets").mapM itemsOf
        let titles? ← (entries.lookup "titles").mapM itemsOf
        let isShort := fun items : List TypeForm => decide (items.length < names.length)
        if isShort formats || offsets?.any isShort || titles?.any isShort then throw .fieldCounts
        match (entries.lookup "aligned").map content with
        | none | some (.quantity (.number (.truth _))) => pure ()
        | some _ => throw .badAlignment
        let fields ← (names.zip formats).mapM fun (name, format) => do
          let t ← type fuel format
          match name.content with
          | .text s => return (s, t)
          | _ => throw .fieldNameNotText
        checkNames (fun _ => .reusedName) fields
        recordSize fields offsets? (entries.lookup "itemsize")
        return .fields fields
      | _, _ => do
        let fields ← entries.mapM fun (name, entry) => do
          let size ← entry.itemsOf
          match entry.content with
          | .tuple (t :: _ :: rest) =>
            if 1 < rest.length then throw .notAnEntry
            return (name, ← type fuel t)
          | _ =>
            discard (pure size)
            throw .notAnEntry
        return .fields fields

/-- The type that a value names. -/
def toType (f : TypeForm) : Except TypeNameError ArrayType := type 64 f

end TypeForm

end Milp.Numeric
