import Milp.Number.Bits
import Milp.Session.Collection
import Milp.Session.Wording

/-!
# Operations of arrays

What the operations of arrays, and of elements out of them, do when they are called by their names:
operations that make one entry out of all of them, rows of results, and single entries. An element
is an array without dimensions. An operation is carried out on all entries in a row, whatever the
shape.
-/

namespace Milp.Session

open Numeric (EntryType Block)

/-! ### One entry out of all -/

/-- The type of the sum of entries of a type. -/
def sumType : EntryType → EntryType
  | .truth | .byte => .signed
  | t => t

/-- Entries, cut in two near the middle while there are many, are added up in eight rows. The fuel is
used up by one for every cut. -/
def sumOfDoubles : (fuel : Nat) → List Float → Float
  | 0, xs => xs.foldl (· + ·) 0
  | fuel + 1, xs =>
    let n := xs.length
    if n < 8 then xs.foldl (· + ·) 0
    else if 128 < n then
      let half := n / 2 - n / 2 % 8
      sumOfDoubles fuel (xs.take half) + sumOfDoubles fuel (xs.drop half)
    else
      let whole := n - n % 8
      let row := fun i => ((List.range (whole / 8 - 1)).map fun j => xs.getD (8 * (j + 1) + i) 0).foldl
        (· + ·) (xs.getD i 0)
      (xs.drop whole).foldl (· + ·)
        (((row 0 + row 1) + (row 2 + row 3)) + ((row 4 + row 5) + (row 6 + row 7)))

/-- An entry as a double. -/
def doubleOf (v : Value) : Float := ((v.quantity?.bind (·.toNumber.toDouble.toOption))).getD 0

/-- An entry counts as true. -/
def isSet (v : Value) : Bool :=
  !((v.quantity?.map (·.same (.number (.whole 0)))).bind Except.toOption).getD false

/-- Entries joined by an operation, from the first one on. -/
def joinEntries (o : Operation) (entries : List Value) (start : Value) : Act Value :=
  entries.foldlM (operate o) start

/-- The sum of all entries. -/
def sumOf (g : Grid) : Act Value := do
  let type := sumType g.type
  if type = .double then
    return .ofNumber (.cell (sumOfDoubles g.block.entries.length (g.block.entries.map doubleOf)))
  else return entryOf type (← joinEntries .sum (g.cast type).entries (blankEntry type))

/-- The first entry comes before the second one, and what is no number before all. -/
def precedes (isFalling : Bool) (x y : Value) : Bool :=
  match x.integer?, y.integer? with
  | some m, some n => if isFalling then n < m else m < n
  | _, _ =>
    let (a, b) := (doubleOf x, doubleOf y)
    !b.isNaN && (a.isNaN || if isFalling then b < a else a < b)

/-- The place of the least entry or of the greatest one; the first one of several. -/
def extremePlace? (isGreatest : Bool) (entries : List Value) : Option Nat :=
  (entries.zipIdx.foldl (fun best? p =>
    match best? with
    | none => some p
    | some best => if precedes isGreatest p.1 best.1 then some p else some best) none).map Prod.snd

/-- The places of the entries in their order; what is no number comes last. -/
def placesInOrder (entries : List Value) : List Nat :=
  let isAtMost := fun x y : Value =>
    let (a, b) := (doubleOf x, doubleOf y)
    if a.isNaN then b.isNaN else b.isNaN || !precedes false y x
  (entries.zipIdx.mergeSort fun p q => isAtMost p.1 q.1).map Prod.snd

/-! ### Entries by their places -/

/-- The entry at a place among all of them; places before zero count from the end. -/
def entryAt (entries : List Value) (among : String) (i : Int) : Act Value := do
  let place := if i < 0 then i + entries.length else i
  match (if 0 ≤ place then entries[place.toNat]? else none) with
  | some v => return v
  | none =>
    fail .place ("index " ++ toString i ++ " is out of bounds for " ++ among ++ "size " ++
      toString entries.length)

/-- The only entry, or the one at a place, as a value that has nothing to do with arrays. -/
def plainItem (entries : List Value) (place? : Option Value) : Act Value := do
  match place?, entries with
  | some place, _ => do settle (plainEntry (← entryAt entries "" (← indexOf place)))
  | none, [v] => settle (plainEntry v)
  | none, _ => fail .value "can only convert an array of size 1 to a Python scalar"

/-- A row of entries as an array. -/
def giveEntries (type : EntryType) (entries : List Value) : Act Value :=
  give (.array type ⟨[entries.length], entries⟩)

/-- The sum of the products of entries. -/
def innerProduct (g : Grid) (x : Value) : Act Value := do
  let h ← ofData ((← get).gridOf x)
  match g.block.shape, h.block.shape with
  | [m], [n] => do
    if m ≠ n then
      fail .value ("shapes (" ++ toString m ++ ",) and (" ++ toString n ++ ",) not aligned: " ++
        toString m ++ " (dim 0) != " ++ toString n ++ " (dim 0)")
    let type := g.type.join h.type
    let products ← ((g.cast type).entries.zip (h.cast type).entries).mapM fun p =>
      operate .product p.1 p.2
    return entryOf type (← joinEntries .sum products (blankEntry type))
  | _, _ => operate .product (ofBlock g.type g.block) x

/-! ### All operations -/

/-- An operation of an array that needs no other value, or has a single one. -/
def operateArray (g : Grid) (name : String) (args : List Value) : Act Value := do
  let entries := g.block.entries
  let mark := fun b => settle (.ofQuantity (.mark b))
  let word := fun n : Nat => Value.ofNumber (.word (Int64.ofInt n))
  let extreme := fun isGreatest (refusal : String) (result : Nat → Act Value) =>
    match extremePlace? isGreatest entries with
    | some place => result place
    | none => fail .value refusal
  let noExtreme := fun what =>
    "zero-size array to reduction operation " ++ what ++ " which has no identity"
  match name, args with
  | "item", args => plainItem entries args.head?
  | "tolist", [] => plainItem entries none
  | "take", [x] => do
    let places ← ofData ((← get).gridOf x)
    let taken ← places.block.entries.mapM fun v => do entryAt entries "axis 0 with " (← indexOf v)
    settle (ofBlock g.type ⟨places.block.shape, taken⟩)
  | "dot", [x] => do settle (← innerProduct g x)
  | "any", [] => mark (entries.any isSet)
  | "all", [] => mark (entries.all isSet)
  | "sum", [] => do settle (← sumOf g)
  | "prod", [] => do
    let type := sumType g.type
    let one := entryOf type (.ofNumber (.whole 1))
    settle (entryOf type (← joinEntries .product (g.cast type).entries one))
  | "mean", [] => do
    let sum := sumOfDoubles entries.length (entries.map doubleOf)
    settle (.ofNumber (.cell (sum / Float.ofNat entries.length)))
  | "max", [] => extreme true (noExtreme "maximum") fun i => settle (entries.getD i Value.null)
  | "min", [] => extreme false (noExtreme "minimum") fun i => settle (entries.getD i Value.null)
  | "argmax", [] =>
    extreme true "attempt to get argmax of an empty sequence" fun i => settle (word i)
  | "argmin", [] =>
    extreme false "attempt to get argmin of an empty sequence" fun i => settle (word i)
  | "argsort", [] => giveEntries .signed ((placesInOrder entries).map word)
  | "cumsum", [] => do
    let type := sumType g.type
    let (sums, _) ← (g.cast type).entries.foldlM (fun (sums, sum) v => do
      let sum := entryOf type (← operate .sum sum v)
      return (sums ++ [sum], sum)) ([], blankEntry type)
    giveEntries type sums
  | "flatten", [] | "ravel", [] => giveEntries g.type entries
  | "copy", [] => settle (ofBlock g.type g.block)
  | _, _ => return Value.null

/-! ### Operators of elements -/

/-- An operation on the bits of integers and truth values. -/
def bitsOf? (name : String) : Option ((Int → Int → Int) × (Bool → Bool → Bool)) :=
  match name with
  | "__and__" | "__rand__" => some (Bits.both, (· && ·))
  | "__or__" | "__ror__" => some (Bits.either, (· || ·))
  | "__xor__" | "__rxor__" => some (Bits.different, Bool.xor)
  | _ => none

/-- An operator of an element with a single value, or one on bits. -/
def operateElement? (v : Value) (a : Quantity) (name : String) (x : Value) : Option (Act Value) :=
  let word := fun n : Int => settle (.ofNumber (.word (Int64.ofInt n)))
  match name, a, bitsOf? name with
  | "__abs__", .number (.word n), _ => some (word n.toInt.natAbs)
  | "__abs__", .number (.cell y), _ => some (settle (.ofNumber (.cell y.abs)))
  | "__abs__", .mark _, _ => some (return v)
  | "__neg__", _, _ => some (negated v)
  | "__pos__", _, _ => some (unchanged v)
  | "__invert__", .number (.word n), _ => some (word (Bits.opposite n.toInt))
  | "__invert__", .mark b, _ => some (settle (.ofQuantity (.mark !b)))
  | "__int__", _, _ => some do giveInteger (← truncated a.toNumber)
  | "__float__", _, _ => some (settle (.ofNumber (.double (doubleOf v))))
  | "__index__", _, _ => a.integer?.map giveInteger
  | _, _, some (onInts, onBits) =>
    match a, x.quantity? with
    | .mark b, some y =>
      match y.bit?, y.toNumber.integer? with
      | some c, _ => some (settle (.ofQuantity (.mark (onBits b c))))
      | none, some n => some (word (onInts (if b then 1 else 0) n))
      | none, none => none
    | .number (.word m), some y => y.toNumber.integer?.map fun n => word (onInts m.toInt n)
    | _, _ => none
  | _, _, none => none

end Milp.Session
