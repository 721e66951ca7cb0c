import Milp.Session.Formatting
import Milp.Specification

/-!
# Texts with placeholders

A text can be filled in with values in the places of fields between braces. A field tells which value
stands in its place, by a number or a name or else by its turn, and which of its parts, by the names
of properties and by keys in brackets; it may ask for the value in writing first, and may specify its
form. Two braces stand for one.
-/

namespace Milp.Session

/-! ### Values in a form -/

/-- What keeps a specification from being followed, as a failure. -/
def Failure.ofSpecification (e : SpecificationError) : Failure := .plain e.errorClass e.message

/-- A text for which there is a width; it has to have room. -/
def checkRoom (s : Specification) : Act Unit := do
  if tenPow 10 ≤ s.width then fail .memory ""

/-- A text in a specified form, which is the given value if nothing is specified that changes it. -/
def textInForm (v : Value) (t : String) (specification : List Nat) : Act Value := do
  if specification.isEmpty then keepText v t
  else
    let s ← ofExcept .ofSpecification (Specification.read "str" '<' 's'.toNat specification)
    checkRoom s
    keepPoints v (← ofExcept .ofSpecification (s.text "str" (Text.points t)))

/-- An integer in a specified form; the name of its kind is given. -/
def integerInForm (kind : String) (n : Int) (specification : List Nat) : Act Value := do
  let s ← ofExcept .ofSpecification (Specification.read kind '>' 'd'.toNat specification)
  checkRoom s
  givePoints (← ofExcept .ofSpecification (s.integer kind n))

/-- A double in a specified form. -/
def doubleInForm (x : Float) (specification : List Nat) : Act Value := do
  let s ← ofExcept .ofSpecification (Specification.read "float" '>' 0 specification)
  checkRoom s
  givePoints (← ofExcept .ofSpecification (s.double "float" x))

/-- A value in a specified form. Of anything but texts, numbers and the members of a kind nothing can
be specified. -/
def inForm (v : Value) (specification : List Nat) : Act Value := do
  match v.content, specification with
  | .text t, _ => textInForm v t specification
  | .sense _, _ | .direction _, _ => do
    let w ← write v
    textInForm w (w.text?.getD "") specification
  | _, [] => write v
  | .quantity (.mark b), _ => integerInForm "bool" (if b then 1 else 0) specification
  | .quantity (.number n), _ =>
    match n, n.integer? with
    | .double x, _ | .cell x, _ => doubleInForm x specification
    | .truth _, some i => integerInForm "bool" i specification
    | _, some i => integerInForm "int" i specification
    | _, none => write v
  | _, _ =>
    fail .kind ("unsupported format string passed to " ++ v.kind.fullName ++ ".__format__")

/-! ### Fields -/

/-- How fields tell which value stands in their places. -/
inductive Numbering where
  | undecided
  /-- By their turn; the number of the next one is given. -/
  | byTurn (next : Nat)
  | byNumber

/-- The values that fields can stand for: some with numbers, and others that a mapping has under
their names. -/
structure Offer where
  numbered? : Option (List Value)
  mapping? : Option Value

/-- A field: what it stands for, how it is put in writing, and the specification of its form. -/
structure Field where
  name : List Char
  conversion? : Option Char
  form : List Char

namespace Field

/-- The name at the start of a field, and what follows it with the character in front that ended it.
Within brackets anything can stand. -/
def takeName : (isInside : Bool) → List Char → Act (List Char × List Char)
  | _, [] => return ([], [])
  | isInside, c :: cs => do
    let goOn := fun (isInside : Bool) => do
      let (name, rest) ← takeName isInside cs
      return (c :: name, rest)
    if isInside then goOn (c ≠ ']')
    else match c with
      | '{' => fail .value "unexpected '\x7b' in field name"
      | '}' | ':' | '!' => return ([], c :: cs)
      | c => goOn (c = '[')

/-- The specification up to the brace that closes its field, some other braces being open. -/
def takeForm : (depth : Nat) → List Char → Act (List Char × List Char)
  | _, [] => fail .value "unmatched '\x7b' in format spec"
  | depth, c :: cs => do
    let goOn := fun (depth : Nat) => do
      let (form, rest) ← takeForm depth cs
      return (c :: form, rest)
    match c, depth with
    | '{', _ => goOn (depth + 1)
    | '}', 0 => return ([], cs)
    | '}', depth + 1 => goOn depth
    | _, _ => goOn depth

/-- The first field of a text, from behind its brace on, and what follows it. -/
def read (cs : List Char) : Act (Field × List Char) := do
  let (name, rest) ← takeName false cs
  let withForm := fun (conversion? : Option Char) cs => do
    let (form, rest) ← takeForm 0 cs
    return (Field.mk name conversion? form, rest)
  match rest with
  | '!' :: [] => fail .value "end of string while looking for conversion specifier"
  | '!' :: c :: '}' :: rest => return (⟨name, some c, []⟩, rest)
  | '!' :: c :: ':' :: rest => withForm (some c) rest
  | '!' :: c :: [] => withForm (some c) []
  | '!' :: _ => fail .value "expected ':' after conversion specifier"
  | ':' :: rest => withForm none rest
  | _ :: rest => return (⟨name, none, []⟩, rest)
  | [] => fail .value "expected '\x7d' before end of string"

/-- The number that a name is, if it is one. -/
def number? (cs : List Char) : Act (Option Nat) := do
  if cs.isEmpty || !cs.all Text.isDigit then return none
  let n := Text.digitsValue cs
  if twoPow 63 ≤ n then throw (.ofSpecification .tooManyDigits)
  return some n

/-- The character ends a name in front of the parts of a value. -/
def isDivider (c : Char) : Bool := c = '.' || c = '['

/-- The part of a value that the names of properties and the keys in brackets lead to. The fuel is
used up by one for every name and every key. -/
def follow : (fuel : Nat) → Value → List Char → Act Value
  | 0, v, _ | _, v, [] => return v
  | fuel + 1, v, '.' :: cs => do
    let name := cs.takeWhile (!isDivider ·)
    if name.isEmpty then fail .value "Empty attribute in format string"
    follow fuel (← property v (String.ofList name)) (cs.drop name.length)
  | fuel + 1, v, '[' :: cs => do
    let key := cs.takeWhile (· ≠ ']')
    if key.length = cs.length then fail .value "Missing ']' in format string"
    let number? ← number? key
    if key.isEmpty then fail .value "Empty attribute in format string"
    let key' ← match number? with
      | some n => giveInteger n
      | none => giveText (String.ofList key)
    follow fuel (← itemAt v key') (cs.drop (key.length + 1))
  | _, _, _ =>
    fail .value "Only '.' or '[' may follow ']' in format field specifier"

/-- How the next fields tell their values, after one that tells it by its turn or by a number. -/
def goOn (numbering : Numbering) (isTurn : Bool) : Act Numbering := do
  match numbering, isTurn with
  | .undecided, true => return .byTurn 1
  | .byTurn n, true => return .byTurn (n + 1)
  | .undecided, false | .byNumber, false => return .byNumber
  | .byNumber, true =>
    fail .value ("cannot switch from manual field specification to automatic field numbering")
  | .byTurn _, false =>
    fail .value ("cannot switch from automatic field numbering to manual field specification")

/-- The value with a number. -/
def numbered (offer : Offer) (n : Nat) : Act Value := do
  match offer.numbered? with
  | none => fail .value "Format string contains positional fields"
  | some values =>
    match values[n]? with
    | some v => return v
    | none =>
      fail .place ("Replacement index " ++ toString n ++
        " out of range for positional args tuple")

/-- The value that a field stands for. -/
def value (f : Field) (offer : Offer) (numbering : Numbering) : Act (Value × Numbering) := do
  let first := f.name.takeWhile (!isDivider ·)
  let rest := f.name.drop first.length
  let number? ← number? first
  let (v, numbering) ← match first, number? with
    | [], _ => do
      let next := match numbering with
        | .byTurn n => n
        | _ => 0
      let numbering ← goOn numbering true
      pure (← numbered offer next, numbering)
    | _, some n => do
      let numbering ← goOn numbering false
      pure (← numbered offer n, numbering)
    | name, none => do
      let name := String.ofList name
      match offer.mapping? with
      | some m => do pure (← itemAt m (← giveText name), numbering)
      | none => fail .key (Text.quoted name)
  return (← follow (rest.length + 1) v rest, numbering)

/-- A value in writing, in the way that a letter tells. -/
def convert (v : Value) : Option Char → Act Value
  | none => return v
  | some 's' => write v
  | some 'r' => do giveText (← ofData ((← get).displayOf v))
  | some 'a' => do giveText (inBytes (← ofData ((← get).displayOf v)))
  | some c =>
    fail .value ("Unknown conversion specifier " ++ (if 32 < c.toNat ∧ c.toNat < 127 then c.toString
      else "\\x" ++ String.ofList (Nat.toDigits 16 c.toNat)))

end Field

/-! ### Filling in -/

/-- The text in front of the first brace that is not one of a pair, and what follows that brace,
which opens a field, if there is one. -/
def takeLiteral : List Char → Act (List Char × Option (List Char))
  | [] => return ([], none)
  | '{' :: '{' :: cs => do
    let (literal, rest) ← takeLiteral cs
    return ('{' :: literal, rest)
  | '}' :: '}' :: cs => do
    let (literal, rest) ← takeLiteral cs
    return ('}' :: literal, rest)
  | ['{'] => fail .value "Single '\x7b' encountered in format string"
  | '}' :: _ => fail .value "Single '\x7d' encountered in format string"
  | '{' :: cs => return ([], some cs)
  | c :: cs => do
    let (literal, rest) ← takeLiteral cs
    return (c :: literal, rest)

/-- The pieces of a text, filled in with values; a field is a piece. Fields can stand in the
specification of another field, but not deeper: there are two levels. The fuel is used up by one for
every field and every level. -/
def piecesOf (offer : Offer) :
    (fuel level : Nat) → Numbering → List Char → Act (List Value × Numbering)
  | 0, _, numbering, _ => return ([], numbering)
  | _, 0, _, _ => fail .value "Max string recursion exceeded"
  | fuel + 1, level + 1, numbering, cs => do
    let (literal, rest?) ← takeLiteral cs
    let front ← if literal.isEmpty then pure [] else do pure [← giveText (String.ofList literal)]
    match rest? with
    | none => return (front, numbering)
    | some rest => do
      let (field, rest) ← Field.read rest
      let (v, numbering) ← field.value offer numbering
      let v ← Field.convert v field.conversion?
      let (form, numbering) ← if field.form.contains '{' then do
          let (pieces, numbering) ← piecesOf offer fuel level numbering field.form
          pure (textOf pieces, numbering)
        else pure (String.ofList field.form, numbering)
      let piece ← inForm v (Text.points form)
      let (pieces, numbering) ← piecesOf offer fuel (level + 1) numbering rest
      return (front ++ piece :: pieces, numbering)
where
  textOf (pieces : List Value) : String := joined "" (pieces.filterMap Value.text?)

/-- A text filled in with values. A text without braces stays what it is, and so does a value that
is all of the text. -/
def fillPlaces (template : Value) (text : String) (offer : Offer) : Act Value := do
  let cs := text.toList
  let (pieces, _) ← piecesOf offer (2 * cs.length + 2) 2 .undecided cs
  match pieces with
  | [piece] => if piece.text? = some text then return template else return piece
  | pieces => giveText (joined "" (pieces.filterMap Value.text?))

end Milp.Session
