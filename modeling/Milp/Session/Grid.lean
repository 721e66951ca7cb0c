import Milp.Session.Member

/-!
# Values as arrays

Where an array meets another value in an operation, that value is taken as an array too: nested
lists as a block of their items, anything else as a single entry. The entries take the narrowest
type that they have in common.
-/

namespace Milp.Session

open Numeric (EntryType Block Item)

/-- An array: a block of entries with their type. -/
structure Grid where
  type : EntryType
  block : Block Value

/-! ### Entries -/

/-- A quantity as an entry of a type that holds it, and anything else in writing if entries are
texts. -/
def entryOf (t : EntryType) (v : Value) : Value :=
  let integer := fun a : Quantity => a.toNumber.integer?.getD 0
  match t, v.quantity? with
  | .truth, some a => .ofQuantity (.mark (integer a ≠ 0))
  | .byte, some a => .ofNumber (.word (Int64.ofInt (Int.bmod (integer a) 256)))
  | .signed, some a => .ofNumber (.word (Int64.ofInt (integer a)))
  | .unsigned, some a => .ofNumber (.whole (integer a % twoPow 64))
  | .double, some a => .ofNumber (.cell (a.toNumber.toDouble.toOption.getD 0))
  | .text _, some a => .ofText a.text
  | _, _ => v

/-- An entry as a value that has nothing to do with arrays. -/
def plainEntry (v : Value) : Value :=
  match v.quantity? with
  | some (.mark b) => .ofTruth b
  | some (.number (.word n)) => .ofNumber (.whole n.toInt)
  | some (.number (.cell x)) => .ofNumber (.double x)
  | _ => v

/-- The entries as those of another type. -/
def Grid.cast (g : Grid) (t : EntryType) : Block Value :=
  if g.type = t then g.block else g.block.map fun v => entryOf t (plainEntry v)

/-! ### Values as arrays -/

/-- A value as far as its shape and the types of its entries go. -/
def outline (s : Session) : (fuel : Nat) → Value → Item
  | 0, _ => .null
  | fuel + 1, v =>
    match v.content, (s.items? v).orElse fun _ => v.rows? with
    | .quantity a, _ => .quantity a
    | .text t, _ => .text t
    | _, some items => .list (items.map (outline s fuel))
    | _, none => .null

/-- The entries of a value that has a number of dimensions. -/
def entriesAt (s : Session) : (depth : Nat) → Value → List Value
  | 0, v => [v]
  | depth + 1, v =>
    match (s.items? v).orElse fun _ => v.rows? with
    | some items => items.flatMap (entriesAt s depth)
    | none => [v]

/-- A value as an array. -/
def gridOf (s : Session) (v : Value) : Except DatumError Grid :=
  match v.content with
  | .array type block => .ok ⟨type, block⟩
  | _ => do
    let item := s.outline s.fuel v
    let depth ← (Numeric.Survey.dimensions item).mapError .block
    let type := Numeric.commonType (Numeric.leaves item)
    let shape := (Numeric.Survey.of item).shape.take depth
    return ⟨type, shape, (s.entriesAt depth v).map (entryOf type)⟩

/-! ### Pairs -/

/-- Pairs of the entries of two arrays as entries of one type. -/
def Grid.pairs (a b : Grid) (t : EntryType) : Except DatumError (Block (Value × Value)) :=
  ((a.cast t).zip (b.cast t)).mapError .block

/-- The type as which entries of two types are compared; texts are not compared with numbers. -/
def comparableType? (a b : EntryType) : Option EntryType :=
  match a, b with
  | .any, _ | _, .any => some .any
  | .text m, .text n => some (.text (max m n))
  | .text _, _ | _, .text _ => none
  | a, b => some (a.join b)

/-- The entries of two arrays that are compared; nothing if none of them can be equal. -/
def comparedEntries (s : Session) (a b : Value) :
    Except DatumError (Block (Option (Value × Value))) := do
  let x ← s.gridOf a
  let y ← s.gridOf b
  match comparableType? x.type y.type with
  | none => do return (← x.pairs y .any).map fun _ => none
  | some type => do return (← x.pairs y type).map some

end Milp.Session
