import Milp.Datum
import Milp.Number

/-!
# JSON, written

Data as JSON text: items and fields are separated by a comma and a space, a name and its value by a
colon and a space, and every character outside of printable ASCII is escaped by its UTF-16 units.
Doubles are written with the fewest digits that read back, and those without digits as the words
`NaN`, `Infinity` and `-Infinity`.
-/

namespace Milp.Json

open Text

/-- The UTF-16 units of a code point. -/
def units (p : Nat) : List Nat :=
  if p < 0x10000 then [p]
  else
    let n := p - 0x10000
    [0xD800 + n / 0x400, 0xDC00 + n % 0x400]

/-- A code point between the quotes of a text. -/
def escaped (p : Nat) : List Char :=
  let c := Char.ofNat p
  if c = doubleMark ∨ c = '\\' then ['\\', c]
  else if c = '\n' then ['\\', 'n']
  else if c = '\r' then ['\\', 'r']
  else if c = '\t' then ['\\', 't']
  else if c = '\x0c' then ['\\', 'f']
  else if c = '\x08' then ['\\', 'b']
  else if 0x20 ≤ p ∧ p < 0x7F then [c]
  else (units p).flatMap fun u => ['\\', 'u'] ++ hexDigits u 4

/-- A text in quotes. -/
def textChars (s : String) : List Char :=
  doubleMark :: (points s).flatMap escaped ++ [doubleMark]

/-- A double, or one of the words for those without digits. -/
def doubleChars (x : Float) : List Char :=
  match Double.parts x with
  | .nan => "NaN".toList
  | .infinite negative => if negative then "-Infinity".toList else "Infinity".toList
  | .finite .. => (Double.text x).toList

/-- What cannot be written: a value of the kind, or a name of the kind. -/
inductive Unwritable where
  | value (kind : String)
  | name (kind : String)
  /-- A number that has no written form. -/
  | scalar (e : ScalarError)
  /-- Something that is a part of itself. -/
  | circular
  deriving DecidableEq, Repr

def Unwritable.message : Unwritable → String
  | .value kind => "Object of type " ++ kind ++ " is not JSON serializable"
  | .name kind => "keys must be str, int, float, bool or None, not " ++ kind
  | .scalar e => e.message
  | .circular => "Circular reference detected"

def Unwritable.errorClass : Unwritable → ErrorClass
  | .value _ | .name _ => .kind
  | .scalar e => e.errorClass
  | .circular => .value

def numberChars : Number → Except Unwritable (List Char)
  | .whole n => do return (← (Number.whole n).writtenOut.mapError .scalar).toList
  | .truth b => .ok (if b then "true" else "false").toList
  | .double x | .cell x => .ok (doubleChars x)
  | .word n => .error (.value (Number.word n).kind.name)

mutual

/-- A datum as JSON text. -/
def chars : Datum Number → Except Unwritable (List Char)
  | .null => .ok "null".toList
  | .number n => numberChars n
  | .text s => .ok (textChars s)
  | .list [] => .ok "[]".toList
  | .list (d :: ds) => do return '[' :: (← chars d) ++ (← itemChars ds)
  | .record [] => .ok ['\x7b', '\x7d']
  | .record ((key, d) :: fields) => do
    return '\x7b' :: textChars key ++ ": ".toList ++ (← chars d) ++ (← fieldChars fields)

/-- The items after the first one, and the end of the list. -/
def itemChars : List (Datum Number) → Except Unwritable (List Char)
  | [] => .ok [']']
  | d :: ds => do return ", ".toList ++ (← chars d) ++ (← itemChars ds)

/-- The fields after the first one, and the end of the record. -/
def fieldChars : List (String × Datum Number) → Except Unwritable (List Char)
  | [] => .ok ['\x7d']
  | (key, d) :: fields => do
    return ", ".toList ++ textChars key ++ ": ".toList ++ (← chars d) ++ (← fieldChars fields)

end

/-- The JSON text of a datum. -/
def text (d : Datum Number) : Except Unwritable String := String.ofList <$> chars d

end Milp.Json
