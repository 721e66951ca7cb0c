import Milp.Matrix
import Milp.Numeric.Conversion

/-!
# Entries of matrices

The entries of a matrix take the narrowest type that all of them have in common: truth values,
64-bit integers with or without a sign, or doubles. The offsets and bounds that go with a matrix are
doubles in any case, and so are the coefficients of an objective.
-/

namespace Milp.Numeric

/-- The type that entries have in common. -/
inductive EntryType where
  | truth
  /-- Integers of eight bits. -/
  | byte
  | signed
  | unsigned
  | double
  /-- Texts of some length at most. -/
  | text (length : Nat)
  /-- Anything at all. -/
  | any
  deriving DecidableEq, Repr

namespace EntryType

/-- The type of a quantity. -/
def ofQuantity : Quantity → EntryType
  | .mark _ | .number (.truth _) => truth
  | .number (.word _) => signed
  | .number (.whole n) =>
    if Element.fits true 64 n then signed else if Element.fits false 64 n then unsigned else any
  | .number (.double _) | .number (.cell _) => double

/-- The type of a single item. -/
def of : Item → EntryType
  | .entry (.number (.whole _)) => unsigned
  | .quantity a | .entry a => ofQuantity a
  | .text s => text (Text.size s)
  | .null | .list _ | .other .. | .indexed _ => any

/-- The greatest length of an element of the type in writing. -/
def width : EntryType → Nat
  | truth => 5
  | byte => 4
  | signed => 21
  | unsigned => 20
  | double => 32
  | text n => n
  | any => 0

/-- The narrowest type that holds the elements of both. -/
def join (a b : EntryType) : EntryType :=
  if a = b then a
  else
    match a, b with
    | any, _ | _, any => any
    | text _, _ | _, text _ => text (max a.width b.width)
    | truth, t | t, truth => t
    | byte, signed | signed, byte => signed
    | _, _ => double

/-- The name of the type. -/
def name : EntryType → String
  | truth => "bool"
  | byte => "int8"
  | signed => "int64"
  | unsigned => "uint64"
  | double => "float64"
  | text n => "<U" ++ toString (max 1 n)
  | any => "object"

/-- The name of what tells the type. -/
def className : EntryType → String
  | truth => "BoolDType"
  | byte => "Int8DType"
  | signed => "Int64DType"
  | unsigned => "UInt64DType"
  | double => "Float64DType"
  | text _ => "StrDType"
  | any => "ObjectDType"

/-- The type as one of elements. -/
def element : EntryType → Element
  | truth => .truth
  | byte => .integer true 8
  | signed => .integer true 64
  | unsigned => .integer false 64
  | double => .double
  | text n => .text false (some n)
  | any => .any

/-- The number of bytes of an entry. -/
def bytes : EntryType → Nat
  | text n => 4 * max 1 n
  | t => t.element.bytes

/-- The entry that stands where there is none. -/
def zero : EntryType → Number
  | truth => .truth false
  | byte | signed => .word 0
  | unsigned => .whole 0
  | double | text _ | any => .double 0

/-- A quantity as an entry of a type that holds it. -/
def entry (t : EntryType) (a : Quantity) : Except ItemError Number :=
  match t with
  | truth => .ok (.truth (a.bit?.getD false))
  | byte | signed => .ok (.word (Int64.ofInt (a.toNumber.integer?.getD 0)))
  | unsigned => .ok (.whole (a.toNumber.integer?.getD 0))
  | double | text _ | any => a.measure.mapError (.datum ∘ .scalar)

end EntryType

mutual

/-- The single items in nested lists. -/
def leaves : Item → List Item
  | .list items => leavesOf items
  | i => [i]

def leavesOf : List Item → List Item
  | [] => []
  | i :: rest => leaves i ++ leavesOf rest

end

def Item.isList : Item → Bool
  | .list _ => true
  | _ => false

/-- The type that items have in common; of no items, doubles. -/
def commonType (items : List Item) : EntryType :=
  match items.map EntryType.of with
  | [] => .double
  | t :: ts => ts.foldl .join t

/-- Items as entries of a matrix. -/
def gather (items : List Item) : Except ItemError (Number × List Number) := do
  discard (Survey.check (.list items))
  let type := commonType (leavesOf items)
  match type with
  | .any | .text _ => throw (.notEntries type.name)
  | type => do
    if items.any Item.isList then throw .notFlat
    let entries ← items.mapM fun
      | .quantity a | .entry a => type.entry a
      | _ => .ok type.zero
    return (type.zero, entries)

/-- The sum of two entries of one type. -/
def plus : Number → Number → Number
  | .truth x, .truth y => .truth (x || y)
  | .whole m, .whole n => .whole ((m + n) % twoPow 64)
  | a, b => (Number.add a b).toOption.getD a

/-- Makes sure that an item can be added to a double, whatever the sum is. -/
def checkSummand : Item → Except ItemError Unit
  | .quantity a | .entry a => discard (a.measure.mapError (.datum ∘ .scalar))
  | .text _ => refuse "str"
  | .null => refuse "NoneType"
  | .other kind _ isAffine _ => if isAffine then .ok () else refuse kind.fullName
  | .indexed kind => refuse kind.fullName
  | .list _ => .ok ()
where
  refuse kind := .error (.datum (.scalar (.unsupportedElements "+" "float" kind)))

/-- Adds an item to a coefficient of an objective, a double. -/
def increase (x : Number) (i : Item) : Except ItemError Number :=
  match i with
  | .quantity a | .entry a =>
    (do return Number.double (← (← x.add (← a.measure)).toDouble)).mapError (.datum ∘ .scalar)
  | .text s =>
    .error (.datum (.scalar (.noLoop "add" "float64" (EntryType.text (Text.size s)).name)))
  | .list items => do
    discard (Survey.check (.list items))
    match commonType (leavesOf items) with
    | .text n => throw (.datum (.scalar (.noLoop "add" "float64" (EntryType.text n).name)))
    | .any => do
      discard ((leavesOf items).mapM checkSummand)
      throw .nested
    | _ => throw .nested
  | i => do
    checkSummand i
    throw (.datum (.scalar (.notReal "Expression")))

/-- How items, which data are looked at as, become the numbers of a program. -/
def arrays {δ : Type} (item : δ → Item) : Arrays δ Number where
  increase x d := increase x (item d)
  gather ds := gather (ds.map item)
  plus := plus
  bounds ds := do
    let items := ds.map fun d => (d.map item).getD (.quantity (.number (.double 0)))
    match ← toDoubles (.list items) with
    | none => throw .nested
    | some xs => return (ds.zip xs).map fun p => p.1.map fun _ => .double p.2
  offsets d := do return (← toDoubles (item d)).map (·.map .double)

end Milp.Numeric
