import Milp.Number.Places
import Milp.Session.Collection

/-!
# Texts with directives

A text can be filled in with values. A directive in it starts with a percent sign, tells how the
next value is written, and may tell a width and a number of places too; with a key in parentheses it
stands for what a value holds under that key. Two percent signs stand for one.
-/

namespace Milp.Session

/-- How a value is written in the place of a directive. The code point tells the letter that stands
at the end. -/
structure Directive where
  flags : List Char
  width : Nat
  places? : Option Nat
  point : Nat

/-- What is left of a text, and the values that have not been used yet. -/
structure Rest where
  text : List Char
  values : List Value

namespace Directive

/-- The letter at the end of a directive. There is none for half of a pair. -/
def letter (d : Directive) : Char := Char.ofNat d.point

/-! ### Reading -/

/-- The next value, as an act that leaves the others. -/
def nextValue (values : List Value) : Act (Value × List Value) := do
  match values with
  | v :: values => return (v, values)
  | [] => fail .kind "not enough arguments for format string"

/-- Splits off what stands in parentheses, some of which may be open already. -/
def splitKey : (depth : Nat) → List Char → Option (List Char × List Char)
  | _, [] => none
  | depth, c :: cs =>
    let depth := if c = '(' then depth + 1 else if c = ')' then depth - 1 else depth
    if depth = 0 then some ([], cs)
    else (splitKey depth cs).map fun r => (c :: r.1, r.2)

/-- What a value holds under a key in parentheses becomes the next value. -/
def readKey (whole : Value) (hasKeys : Bool) (r : Rest) : Act Rest := do
  match r.text with
  | '(' :: cs => do
    if !hasKeys then fail .kind "format requires a mapping"
    match splitKey 1 cs with
    | some (key, cs) => return ⟨cs, [← itemAt whole (.ofText (String.ofList key))]⟩
    | none => fail .value "incomplete format key"
  | _ => return r

/-- A number at the start, which may be the next value. -/
structure Count where
  bits : Nat
  /-- What the number is called where it is too large. -/
  name : String
  /-- What an integer of so many bits is called. -/
  type : String

/-- The least width of a word. -/
def Count.width : Count := ⟨64, "width", "ssize_t"⟩

/-- The number of places of a word. -/
def Count.places : Count := ⟨32, "precision", "int"⟩

/-- A number at the start, which may be the next value. -/
def readCount (count : Count) (r : Rest) : Act (Int × Rest) := do
  match r.text with
  | '*' :: cs => do
    let (v, values) ← nextValue r.values
    match v.number? with
    | some (.whole n) =>
      if Numeric.Element.fits true count.bits n then return (n, ⟨cs, values⟩)
      else fail .overflow ("Python int too large to convert to C " ++ count.type)
    | some (.truth b) => return (if b then 1 else 0, ⟨cs, values⟩)
    | _ => fail .kind "* wants int"
  | cs => do
    let digits := cs.takeWhile Char.isDigit
    let n := Text.digitsValue digits
    if !Numeric.Element.fits true count.bits n then fail .value (count.name ++ " too big")
    return (n, { r with text := cs.drop digits.length })

/-- A width as far as it is one: that of the least integer is none, as it has no opposite. -/
def widthOf (n : Int) : Nat := if Numeric.Element.fits true 64 (-n) then n.natAbs else 0

/-- Reads a directive after its percent sign. -/
def read (whole : Value) (hasKeys : Bool) (r : Rest) : Act (Directive × Rest) := do
  let r ← readKey whole hasKeys r
  let flags := r.text.takeWhile ("-+ #0".toList.contains ·)
  let (width, r) ← readCount .width { r with text := r.text.drop flags.length }
  let flags := if width < 0 then '-' :: flags else flags
  let (places?, r) ← match r.text with
    | '.' :: cs => do
      let (n, r) ← readCount .places { r with text := cs }
      pure (some n.toNat, r)
    | _ => pure (none, r)
  let cs := match r.text with
    | 'h' :: cs | 'l' :: cs | 'L' :: cs => cs
    | cs => cs
  match Text.pointsOf cs with
  | p :: _ =>
    let left := cs.drop (Text.charsOf p).length
    return (⟨flags, widthOf width, places?, p⟩, { r with text := left })
  | [] => fail .value "incomplete format"

/-! ### Writing -/

/-- A word with a sign and a mark of its base in front, as wide as the directive asks. -/
def pad (d : Directive) (isNumber : Bool) (sign mark body : List Char) : List Char :=
  let missing := d.width - (Text.pointsOf (sign ++ mark ++ body)).length
  if d.flags.contains '-' then sign ++ mark ++ body ++ List.replicate missing ' '
  else if isNumber && d.flags.contains '0' then
    sign ++ mark ++ List.replicate missing '0' ++ body
  else List.replicate missing ' ' ++ sign ++ mark ++ body

/-- The sign of a number. -/
def sign (d : Directive) (negative : Bool) : List Char :=
  if negative then ['-'] else if d.flags.contains '+' then ['+']
  else if d.flags.contains ' ' then [' '] else []

/-- A text, or as much of it as the directive asks for. -/
def word (d : Directive) (text : String) : List Char :=
  d.pad false [] [] (match d.places? with
    | some n => ((Text.points text).take n).flatMap Text.charsOf
    | none => text.toList)

/-- An integer in a base, with as many digits as the directive asks for. -/
def whole (d : Directive) (base : Nat) (mark : List Char) (n : Int) : List Char :=
  let ds := Nat.toDigits base n.natAbs
  let ds := if d.letter = 'X' then ds.map Char.toUpper else ds
  let ds := List.replicate (d.places?.getD 0 - ds.length) '0' ++ ds
  d.pad true (d.sign (n < 0)) (if d.flags.contains '#' then mark else []) ds

/-- No double has more digits before only zeros follow. -/
def mostDigits : Nat := 1100

/-- A double with as many places or digits as the directive asks for. -/
def real (d : Directive) (x : Float) : List Char :=
  let keepsPoint := d.flags.contains '#'
  let places := d.places?.getD 6
  let (negative, body) := match Double.parts x with
    | .nan => (false, "nan".toList)
    | .infinite negative => (negative, "inf".toList)
    | .finite negative m q =>
      let (num, den) := Double.unscale m 1 (-q)
      (negative,
        if d.letter.toLower = 'f' then Double.withPlaces keepsPoint places num den
        else if d.letter.toLower = 'e' then Double.withExponent keepsPoint places num den
        else
          let count := if keepsPoint then places else min places mostDigits
          Double.withDigits keepsPoint false count num den)
  d.pad true (d.sign negative) [] (if d.letter.isUpper then body.map Char.toUpper else body)

end Directive

/-- The integer next to a number on the way to zero. -/
def truncated (n : Number) : Act Int := do
  match n.integer?, n with
  | some i, _ => return i
  | none, .double x | none, .cell x =>
    match Double.truncate? x with
    | some i => return i
    | none => throw (.ofItem (.notFinite x.isNaN))
  | none, _ => return 0

/-- A text with escapes in the place of all characters that bytes cannot write. -/
def inBytes (text : String) : String :=
  String.join ((Text.points text).map fun p =>
    if p < 128 then Text.ofPoints [p] else Numeric.codePoint p)

/-- The character that a value is or has the number of. -/
def characterOf (v : Value) : Act String := do
  match v.text?, v.integer? with
  | some t, _ => if Text.size t = 1 then return t else fail .kind "%c requires int or char"
  | none, some n =>
    if 0 ≤ n ∧ n < 0x110000 then return Text.ofPoints [n.toNat]
    else fail .overflow "%c arg not in range(0x110000)"
  | none, none => fail .kind "%c requires int or char"

/-- Refuses more places than an integer can have. -/
def checkPlaces (d : Directive) : Act Unit := do
  if (d.places?.getD 0) + 3 ≥ twoPow 31 then fail .overflow "precision too large"

/-- Refuses a width for which there is no room. -/
def checkWidth (d : Directive) : Act Unit := do
  if tenPow 11 ≤ d.width then fail .memory ""

/-- A value in the place of a directive. -/
def writtenAs (d : Directive) (index : Nat) (v : Value) : Act (List Char) := do
  let s ← get
  let kind := v.kind.fullName
  let refuse := fun wanted : String => fail (τ := List Char) .kind
    ("%" ++ d.letter.toString ++ " format: " ++ wanted ++ " is required, not " ++ kind)
  let inBase := fun (base : Nat) (mark : Char) => do
    match v.integer? with
    | some n => do
      checkPlaces d
      checkWidth d
      return d.whole base ['0', mark] n
    | none => refuse "an integer"
  let word := fun text => do
    checkWidth d
    return d.word text
  match d.letter with
  | 's' => word (← ofData (s.plainOf v))
  | 'r' => word (← ofData (s.displayOf v))
  | 'a' => word (inBytes (← ofData (s.displayOf v)))
  | 'c' => do
    let c ← characterOf v
    checkWidth d
    return d.pad false [] [] c.toList
  | 'x' => inBase 16 'x'
  | 'X' => inBase 16 'X'
  | 'o' => inBase 8 'o'
  | 'd' | 'i' | 'u' =>
    match v.quantity? with
    | some a => do
      let n ← truncated a.toNumber
      checkPlaces d
      discard (ofExcept .ofScalar (Number.whole n).writtenOut)
      checkWidth d
      return d.whole 10 [] n
    | none => refuse "a real number"
  | 'f' | 'F' | 'e' | 'E' | 'g' | 'G' =>
    match v.quantity? with
    | some a => do
      let x ← ofExcept .ofScalar a.toNumber.toDouble
      checkWidth d
      return d.real x
    | none => fail .kind ("must be real number, not " ++ kind)
  | c =>
    let shown := if 31 ≤ d.point ∧ d.point ≤ 126 then c else '?'
    fail .value ("unsupported format character '" ++ shown.toString ++ "' (0x" ++
      String.ofList (Nat.toDigits 16 d.point) ++ ") at index " ++ toString index)

/-- Fills in values from a place of a text on. The fuel is used up by one for every character. -/
def fillFrom (whole : Value) (hasKeys : Bool) (size : Nat) :
    (fuel : Nat) → Rest → Act (List Char × List Value)
  | 0, r => return ([], r.values)
  | fuel + 1, r => do
    match r.text with
    | [] => return ([], r.values)
    | '%' :: '%' :: cs => do
      let (rest, values) ← fillFrom whole hasKeys size fuel { r with text := cs }
      return ('%' :: rest, values)
    | '%' :: cs => do
      let (d, r) ← Directive.read whole hasKeys { r with text := cs }
      let (v, values) ← Directive.nextValue r.values
      let word ← writtenAs d (size - (Text.pointsOf r.text).length - 1) v
      let (rest, values) ← fillFrom whole hasKeys size fuel { r with values }
      return (word ++ rest, values)
    | c :: cs => do
      let (rest, values) ← fillFrom whole hasKeys size fuel { r with text := cs }
      return (c :: rest, values)

/-- Kinds of which nothing else can be seen than that they answer to keys. -/
def keyedKinds : List String :=
  ["memoryview", "flatiter", "flagsobj", "mappingproxy", "GenericAlias", "_PathParents"]

/-- The value can be asked for what it holds under a key. -/
def answersToKeys (s : Session) (v : Value) : Bool :=
  match v.content with
  | .sealed kind | .roll kind _ => keyedKinds.contains kind
  | .entryType _ | .array .. | .bytes _ => true
  | .quantity a => a.kind.isElement
  | _ =>
    v.isObject .list || v.isObject .solution || (s.mapping? v).isSome || (members? v).isSome

/-- The value that is all that a text with a single directive is filled in with, if it is a text and
stays as it is. -/
def onlyText? (whole : Value) (hasKeys : Bool) (r : Rest) (filled : String) :
    Act (Option Value) := do
  match r.text with
  | '%' :: cs => do
    let (d, r) ← Directive.read whole hasKeys { r with text := cs }
    let isLast := r.text.isEmpty && d.letter = 's'
    return r.values.head?.filter fun x => isLast && x.text? == some filled
  | _ => return none

/-- A text filled in with the items of a tuple, or with a single value. All values have to be used,
unless they can be asked for by keys. -/
def fillIn (template : Value) (text : String) (v : Value) : Act Value := do
  let s ← get
  let (values, hasKeys) := match v.content with
    | .tuple items => (items, false)
    | .term factor x => ([factor, x], false)
    | _ => ([v], s.answersToKeys v)
  let cs := text.toList
  let (filled, rest) ← fillFrom v hasKeys (Text.size text) (cs.length + 1) ⟨cs, values⟩
  if !rest.isEmpty && !hasKeys then
    fail .kind "not all arguments converted during string formatting"
  if !cs.contains '%' then return template
  match ← onlyText? v hasKeys ⟨cs, values⟩ (String.ofList filled) with
  | some x => return x
  | none => giveText (String.ofList filled)

/-- The remainder of two values; a text is filled in. -/
def remainder (a b : Value) : Act Value :=
  match a.text? with
  | some text => fillIn a text b
  | none => calculate .remainder a b

end Milp.Session
