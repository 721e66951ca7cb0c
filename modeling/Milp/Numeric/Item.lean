import Milp.Datum
import Milp.Number.Complex
import Milp.Numeric.TypeName

/-!
# Items of numeric arrays

What is to become an array is looked at as nested lists of items. An array has as many dimensions as
the lists are deep, and along each dimension all lists must have the same length. The lists are
walked from left to right, and the first item of all tells what the others have to be like.
-/

namespace Milp.Numeric

/-- A value that is to stand in an array. -/
inductive Item where
  | quantity (a : Quantity)
  /-- An entry of an array. -/
  | entry (a : Quantity)
  | null
  | text (s : String)
  | list (items : List Item)
  /-- Anything else: its kind, its truth value, whether it is a variable or an expression, and the
  form in which it stands alone. -/
  | other (kind : Kind) (truth : Bool) (isAffine : Bool) (written : Except DatumError String)
  /-- Something that answers to places and does not tell how many there are. -/
  | indexed (kind : Kind)

/-- Characters in a row that are none of those that bytes can write. -/
structure Unwritten where
  /-- The code point of the first of the characters. -/
  first : Nat
  start : Nat
  count : Nat
  deriving DecidableEq, Repr

/-- Why items make no array of the wanted type. -/
inductive ItemError where
  | datum (e : DatumError)
  | name (e : TypeNameError)
  /-- The items make no block. -/
  | block (e : BlockError)
  /-- A list stands where a number should. -/
  | nested
  /-- A sequence stands where a text should. -/
  | sequence
  /-- An integer does not fit; it and the name of the type are given. -/
  | outOfBounds (n : Int) (type : String)
  | notFinite (isNan : Bool)
  /-- An integer does not fit into a length of time. -/
  | tooBig
  /-- The text writes no integer; it is given in quotes. -/
  | badInteger (quoted : String)
  | notInteger (kind : String)
  /-- The text writes no complex number; it is given in quotes. -/
  | badComplex (fault : Complex.Fault) (quoted : String)
  /-- What should be a complex number is a value of the kind. -/
  | notRealNumber (kind : String)
  /-- The text writes no number of extended precision. -/
  | badExtended (text : String)
  | unencodable (u : Unwritten)
  /-- What should be bytes is a value of the kind. -/
  | notBytes (anyWidth : Bool) (kind : String)
  /-- What should be a time is none. -/
  | notATime (isSpan : Bool)
  /-- A point in time was given by a number without a unit. -/
  | missingUnit
  /-- A point in time was given by a text without a unit. -/
  | unitlessTime
  /-- The text tells no point in time. -/
  | badTime (e : TimeError) (text : String)
  /-- Elements of the type are no doubles. -/
  | uncastable (written : String)
  /-- The entries of a matrix cannot be of the type. -/
  | notEntries (type : String)
  /-- The entries of a matrix were given in nested lists. -/
  | notFlat
  deriving DecidableEq, Repr

/-- As much of a text in quotes as a message has room for. -/
def quotedLength : Nat := 200

/-- A character that bytes cannot write, by its code point. -/
def codePoint (n : Nat) : String :=
  String.ofList (if n < 0x100 then ['\\', 'x'] ++ Text.hexDigits n 2
    else if n < 0x10000 then ['\\', 'u'] ++ Text.hexDigits n 4
    else ['\\', 'U'] ++ Text.hexDigits n 8)

def Unwritten.message (u : Unwritten) : String :=
  "'ascii' codec can't encode " ++
    (if u.count = 1 then "character '" ++ codePoint u.first ++ "' in position " ++ toString u.start
      else "characters in position " ++ toString u.start ++ "-" ++
        toString (u.start + u.count - 1)) ++
    ": ordinal not in range(128)"

def ItemError.message : ItemError → String
  | .datum e => e.message
  | .name e => e.message
  | .block e => e.message
  | .nested => "setting an array element with a sequence."
  | .sequence => "setting an array element with a sequence"
  | .outOfBounds n type => "Python integer " ++ integerText n ++ " out of bounds for " ++ type
  | .notFinite isNan =>
    if isNan then "cannot convert float NaN to integer"
    else "cannot convert float infinity to integer"
  | .tooBig => "int too big to convert"
  | .badInteger quoted =>
    "invalid literal for int() with base 10: " ++ String.ofList (quoted.toList.take quotedLength)
  | .notInteger kind =>
    "int() argument must be a string, a bytes-like object or a real number, not '" ++ kind ++ "'"
  | .badComplex .malformed _ => "complex() arg is a malformed string"
  | .badComplex .grouping quoted => "could not convert string to complex: " ++ quoted
  | .notRealNumber kind => "must be real number, not " ++ kind
  | .badExtended text => "invalid literal for long double: " ++ text
  | .unencodable u => u.message
  | .notBytes anyWidth kind =>
    (if anyWidth then "A" else "a") ++ " bytes-like object is required, not '" ++ kind ++ "'"
  | .notATime isSpan =>
    "Could not convert object to NumPy " ++ if isSpan then "timedelta" else "datetime"
  | .missingUnit => "Converting an integer to a NumPy datetime requires a specified unit"
  | .unitlessTime => "Cannot create a NumPy datetime other than NaT with generic units"
  | .badTime e text => e.message text
  | .uncastable written =>
    "Cannot cast array data from dtype(" ++ written ++
      ") to dtype('float64') according to the rule 'unsafe'"
  | .notEntries type =>
    "scipy.sparse does not support dtype " ++ type ++ ". The only supported types are: bool, " ++
      "int8, uint8, int16, uint16, int32, uint32, int64, uint64, longlong, ulonglong, float32, " ++
      "float64, longdouble, complex64, complex128, clongdouble."
  | .notFlat => "coordinates and data arrays must be 1-D"

def ItemError.errorClass : ItemError → ErrorClass
  | .datum e => e.errorClass
  | .name e => e.errorClass
  | .block e => e.errorClass
  | .outOfBounds .. | .tooBig => .overflow
  | .notFinite isNan => if isNan then .value else .overflow
  | .unencodable _ => .unencodable
  | .nested | .sequence | .badInteger _ | .badComplex ..
  | .badExtended _ | .notATime _ | .missingUnit | .unitlessTime | .badTime ..
  | .notEntries _ | .notFlat => .value
  | .notInteger _ | .notRealNumber _ | .notBytes .. | .uncastable _ => .kind

/-! ### Shapes -/

/-- What a walk through nested lists has found out. -/
structure Survey where
  /-- The depth at which single items are expected. -/
  depth : Nat
  /-- The lengths of the lists at each depth. -/
  shape : List Nat
  /-- A single item or an empty list has fixed the shape. -/
  isFixed : Bool
  /-- The lists do not agree. -/
  isRagged : Bool
  deriving DecidableEq, Repr

namespace Survey

/-- The greatest number of dimensions. -/
def maxDepth : Nat := 64

def start : Survey := ⟨maxDepth, [], false, false⟩

/-- A single item at a depth. -/
def single (depth : Nat) (s : Survey) : Survey :=
  if depth = s.depth then { s with isFixed := true }
  else { s with depth := min depth s.depth, isFixed := true,
                isRagged := s.isRagged || s.isFixed || s.depth < depth }

/-- A list of some length at a depth, and whether its items are to be looked at. -/
def enter (depth size : Nat) (s : Survey) : Survey × Bool :=
  if s.depth < depth + 1 then ({ s with isRagged := true }, false)
  else if !s.isFixed then
    ({ s with shape := s.shape.take depth ++ [size], isFixed := size = 0
              depth := if size = 0 then depth + 1 else s.depth }, size ≠ 0)
  else if s.shape[depth]? = some size then (s, size ≠ 0)
  else ({ s with depth, isRagged := true }, false)

mutual

/-- Walks through an item at a depth. -/
def item (depth : Nat) (s : Survey) : Item → Survey
  | .list items =>
    match s.enter depth items.length with
    | (s, true) => Survey.items (depth + 1) s items
    | (s, false) => s
  | .quantity _ | .entry _ | .null | .text _ | .other .. | .indexed _ => s.single depth

def items (depth : Nat) (s : Survey) : List Item → Survey
  | [] => s
  | i :: rest => Survey.items depth (Survey.item depth s i) rest

end

/-- What an item has for a shape. -/
def of (i : Item) : Survey := item 0 start i

/-- The number of dimensions of items whose lists agree. -/
def dimensions (i : Item) : Except BlockError Nat :=
  let s := of i
  if !s.isRagged then .ok s.depth
  else if s.depth = maxDepth then .error .tooDeep
  else .error (.inhomogeneous (s.shape.take s.depth))

/-- As `dimensions`, with an error of items. -/
def check (i : Item) : Except ItemError Nat := (dimensions i).mapError .block

end Survey

end Milp.Numeric
