import Milp.Datum
import Milp.Number

/-!
# JSON, read

JSON text as data. Beside the numbers of the standard the words `NaN`, `Infinity` and `-Infinity`
are read, a number without fraction and exponent is an integer of any size, and of several values
under one name the last is kept. An error names the place where the text stops being JSON.
-/

namespace Milp.Json

open Text

/-! A reader returns what it read, the text after that and the position there. -/

/-- What is wrong with a text. -/
inductive Fault where
  | value
  | name
  | colon
  | comma
  | extra
  | byteOrderMark
  | controlCharacter
  | unterminated
  | escape
  | codeUnit
  /-- An integer has more digits than can be read. -/
  | digits (count : Nat)
  deriving DecidableEq, Repr

/-- What is wrong with a text, and the number of characters before the place. -/
structure ReadError where
  fault : Fault
  index : Nat
  deriving DecidableEq, Repr

/-- An integer with too many digits is refused as such, whatever the text is. -/
def ReadError.digits? (e : ReadError) : Option ScalarError :=
  match e.fault with
  | .digits count => some (.tooManyDigits (some count))
  | _ => none

/-- The position in the text is also given by line and column. -/
def ReadError.message (e : ReadError) (source : List Char) : String :=
  if let some e := e.digits? then e.message else
  let before := source.take e.index
  let line := before.count '\n' + 1
  let column := (before.reverse.takeWhile (· != '\n')).length + 1
  let what := match e.fault with
    | .value => "Expecting value"
    | .name => "Expecting property name enclosed in double quotes"
    | .colon => "Expecting ':' delimiter"
    | .comma => "Expecting ',' delimiter"
    | .extra => "Extra data"
    | .byteOrderMark => "Unexpected UTF-8 BOM (decode using utf-8-sig)"
    | .controlCharacter => "Invalid control character at"
    | .unterminated => "Unterminated string starting at"
    | .escape => "Invalid \\escape"
    | .codeUnit => "Invalid \\uXXXX escape"
    | .digits _ => ""
  what ++ ": line " ++ toString line ++ " column " ++ toString column ++
    " (char " ++ toString e.index ++ ")"

def fail {τ : Type} (fault : Fault) (index : Nat) : Except ReadError τ := .error ⟨fault, index⟩

/-! ### Blanks and numbers -/

def isSpace (c : Char) : Bool := c = ' ' || c = '\t' || c = '\n' || c = '\r'

/-- The text after the spaces at its start, and its position. -/
def skipSpaces (cs : List Char) (i : Nat) : List Char × Nat :=
  (cs.dropWhile isSpace, i + (cs.takeWhile isSpace).length)

/-- The sign of an exponent, and the text after it. -/
def exponentSign : List Char → List Char × List Char
  | '+' :: cs => (['+'], cs)
  | '-' :: cs => (['-'], cs)
  | cs => ([], cs)

/-- The digits of an exponent with the letter and the sign in front of them. -/
def readExponent? (cs : List Char) : Option (List Char × Int × List Char) :=
  match cs with
  | c :: cs =>
    if c = 'e' ∨ c = 'E' then
      let (sign, ds) := exponentSign cs
      let digits := ds.takeWhile Char.isDigit
      if digits.isEmpty then none
      else
        let n : Int := digitsValue digits
        some (c :: sign ++ digits, if sign = ['-'] then -n else n, ds.dropWhile Char.isDigit)
    else none
  | [] => none

/-- The point and the digits of a fraction. -/
def readFraction? (cs : List Char) : Option (List Char × List Char) :=
  match cs with
  | '.' :: cs =>
    if cs.head?.any Char.isDigit then some (cs.takeWhile Char.isDigit, cs.dropWhile Char.isDigit)
    else none
  | _ => none

/-- Whether there is a minus sign, and the text after it. -/
def minusSign : List Char → Bool × List Char
  | '-' :: cs => (true, cs)
  | cs => (false, cs)

/-- The digits at the start of a text; a zero stands alone. -/
def wholeDigits : List Char → List Char
  | '0' :: _ => ['0']
  | cs => cs.takeWhile Char.isDigit

/-- A number in digits. -/
def readNumber (cs : List Char) (i : Nat) :
    Except ReadError (Number × List Char × Nat) :=
  let (negative, body) := minusSign cs
  let whole := wholeDigits body
  if whole.isEmpty then fail .value i
  else
    let rest := body.drop whole.length
    let (fraction, rest') := (readFraction? rest).getD ([], rest)
    let exponent := readExponent? rest'
    let rest' := (exponent.map (·.2.2)).getD rest'
    let stop := i + (cs.length - rest'.length)
    if fraction.isEmpty && exponent.isNone && Number.maxDigits < whole.length then
      fail (.digits whole.length) i
    else if fraction.isEmpty && exponent.isNone then
      let n : Int := digitsValue whole
      .ok (.whole (if negative then -n else n), rest', stop)
    else
      let e := (exponent.map (·.2.1)).getD 0
      .ok (.double (Double.ofDecimal negative (digitsValue (whole ++ fraction))
        (e - fraction.length)), rest', stop)

/-! ### Texts -/

def hexValue? (c : Char) : Option Nat :=
  if '0' ≤ c ∧ c ≤ '9' then some (c.toNat - '0'.toNat)
  else if 'a' ≤ c ∧ c ≤ 'f' then some (c.toNat - 'a'.toNat + 10)
  else if 'A' ≤ c ∧ c ≤ 'F' then some (c.toNat - 'A'.toNat + 10)
  else none

/-- Four hexadecimal digits and the text after them, which must not be empty. -/
def readUnit? : List Char → Option (Nat × List Char)
  | a :: b :: c :: d :: e :: rest => do
    let digits ← [a, b, c, d].mapM hexValue?
    return (digits.foldl (fun n h => n * 16 + h) 0, e :: rest)
  | _ => none

/-- The character that a letter after a backslash stands for. -/
def simpleEscape? (c : Char) : Option Char :=
  if c = doubleMark ∨ c = '\\' ∨ c = '/' then some c
  else if c = 'b' then some '\x08'
  else if c = 'f' then some '\x0c'
  else if c = 'n' then some '\n'
  else if c = 'r' then some '\r'
  else if c = 't' then some '\t'
  else none

/-- A low surrogate written as an escape, whose digits have to be right, and the text after it. -/
def readLow? (rest : List Char) (i : Nat) : Except ReadError (Option (Nat × List Char)) :=
  match rest with
  | '\\' :: 'u' :: more =>
    if more.length < 5 then .ok none
    else
      match readUnit? more with
      | none => fail .codeUnit (i + 1)
      | some (low, after) =>
        .ok (if 0xDC00 ≤ low ∧ low < 0xE000 then some (low, after) else none)
  | _ => .ok none

/-- The code points of a text up to its closing quote. `start` is the position of its opening quote.
Each step takes at least one character, and `fuel` is the length of the text. -/
def readText (start : Nat) : (fuel : Nat) → (acc : List Nat) → List Char → Nat →
    Except ReadError (String × List Char × Nat)
  | 0, _, _, _ => fail .unterminated start
  | _, _, [], _ => fail .unterminated start
  | fuel + 1, acc, c :: cs, i =>
    if c = doubleMark then .ok (ofPoints acc.reverse, cs, i + 1)
    else if c = '\\' then
      match cs with
      | [] => fail .unterminated start
      | 'u' :: more =>
        match readUnit? more with
        | none => fail .codeUnit (i + 1)
        | some (unit, rest) =>
          if 0xD800 ≤ unit ∧ unit < 0xDC00 then
            match readLow? rest (i + 6) with
            | .error e => .error e
            | .ok (some (low, after)) =>
              let p := 0x10000 + (unit - 0xD800) * 0x400 + (low - 0xDC00)
              readText start fuel (p :: acc) after (i + 12)
            | .ok none => readText start fuel (unit :: acc) rest (i + 6)
          else readText start fuel (unit :: acc) rest (i + 6)
      | e :: rest =>
        match simpleEscape? e with
        | none => fail .escape i
        | some c => readText start fuel (c.toNat :: acc) rest (i + 2)
    else if c.toNat < 0x20 then fail .controlCharacter i
    else readText start fuel (c.toNat :: acc) cs (i + 1)

/-! ### Values -/

/-- The words of JSON and what they stand for. -/
def words : List (List Char × Datum Number) := [
  ("null".toList, .null),
  ("true".toList, .number (.truth true)),
  ("false".toList, .number (.truth false)),
  ("NaN".toList, .number (.double (Float.ofBits 0x7FF8000000000000))),
  ("Infinity".toList, .number (.double (Float.ofBits 0x7FF0000000000000))),
  ("-Infinity".toList, .number (.double (Float.ofBits 0xFFF0000000000000)))]

/-- A word or a number. -/
def readAtom (cs : List Char) (i : Nat) :
    Except ReadError (Datum Number × List Char × Nat) :=
  match words.find? fun w => w.1.isPrefixOf cs with
  | some (w, d) => .ok (d, cs.drop w.length, i + w.length)
  | none => do
    let (n, rest, i) ← readNumber cs i
    return (.number n, rest, i)

/-- The name of a field, with the colon after it and the spaces up to the value. -/
def readName (cs : List Char) (i : Nat) : Except ReadError (String × List Char × Nat) := do
  match cs with
  | [] => fail .name i
  | c :: rest =>
    if c ≠ doubleMark then fail .name i
    else
      let (key, rest, i) ← readText i (rest.length + 1) [] rest (i + 1)
      let (rest, i) := skipSpaces rest i
      match rest with
      | ':' :: rest =>
        let (rest, i) := skipSpaces rest (i + 1)
        return (key, rest, i)
      | _ => fail .colon i

mutual

/-- A value at the start of a text. The fuel is used up by one for every value that it is nested
in or follows. -/
def readValue : (fuel : Nat) → List Char → Nat → Except ReadError (Datum Number × List Char × Nat)
  | 0, _, i => fail .value i
  | fuel + 1, cs, i =>
    match cs with
    | [] => fail .value i
    | c :: rest =>
      if c = doubleMark then do
        let (s, rest, i) ← readText i (rest.length + 1) [] rest (i + 1)
        return (.text s, rest, i)
      else if c = '\x7b' then
        let (rest, i) := skipSpaces rest (i + 1)
        match rest with
        | '\x7d' :: rest => .ok (.record [], rest, i + 1)
        | rest => do
          let (fields, rest, i) ← readFields fuel rest i
          return (.record (fieldsOfList fields), rest, i)
      else if c = '[' then
        let (rest, i) := skipSpaces rest (i + 1)
        match rest with
        | ']' :: rest => .ok (.list [], rest, i + 1)
        | rest => do
          let (items, rest, i) ← readItems fuel rest i
          return (.list items, rest, i)
      else readAtom (c :: rest) i

/-- The items of a list from one item on. -/
def readItems : (fuel : Nat) → List Char → Nat →
    Except ReadError (List (Datum Number) × List Char × Nat)
  | 0, _, i => fail .value i
  | fuel + 1, cs, i => do
    let (d, rest, i) ← readValue fuel cs i
    let (rest, i) := skipSpaces rest i
    match rest with
    | ']' :: rest => return ([d], rest, i + 1)
    | ',' :: rest =>
      let (rest, i) := skipSpaces rest (i + 1)
      let (ds, rest, i) ← readItems fuel rest i
      return (d :: ds, rest, i)
    | _ => fail .comma i

/-- The fields of a record from one field on. -/
def readFields : (fuel : Nat) → List Char → Nat →
    Except ReadError (List (String × Datum Number) × List Char × Nat)
  | 0, _, i => fail .name i
  | fuel + 1, cs, i => do
    let (key, rest, i) ← readName cs i
    let (d, rest, i) ← readValue fuel rest i
    let (rest, i) := skipSpaces rest i
    match rest with
    | '\x7d' :: rest => return ([(key, d)], rest, i + 1)
    | ',' :: rest =>
      let (rest, i) := skipSpaces rest (i + 1)
      let (fields, rest, i) ← readFields fuel rest i
      return ((key, d) :: fields, rest, i)
    | _ => fail .comma i

end

/-- Reads a text that is one value with nothing but spaces around it. -/
def read (cs : List Char) : Except ReadError (Datum Number) :=
  if cs.head? = some '\ufeff' then fail .byteOrderMark 0
  else do
    let (start, i) := skipSpaces cs 0
    let (d, rest, i) ← readValue (2 * cs.length + 2) start i
    let (rest, i) := skipSpaces rest i
    if rest.isEmpty then return d else fail .extra i

end Milp.Json
