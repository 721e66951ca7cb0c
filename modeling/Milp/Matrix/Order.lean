/-!
# The order of the entries of a row

The entries of a row are brought into the order of their columns before those of one column are
added up. Sums of doubles depend on the order of the summands, so the order of the entries of one
column matters. Long rows are first split at pivots, each the median of three entries, until no part
has more than sixteen entries. A part that is still longer after too many cuts is sorted as a heap.
What is left is done by an insertion sort, which keeps entries of one column in the order in which
it finds them.
-/

namespace Milp.Matrix

variable {β : Type}

/-- The column of the entry at a place. -/
def columnAt (a : Array (Nat × β)) (i : Nat) : Nat := (a[i]?.map Prod.fst).getD 0

/-- Puts the median of the entries at the places `i`, `j` and `k` in place of the one at `front`. -/
def medianToFront (a : Array (Nat × β)) (front i j k : Nat) : Array (Nat × β) :=
  let (x, y, z) := (columnAt a i, columnAt a j, columnAt a k)
  let median :=
    if x < y then if y < z then j else if x < z then k else i
    else if x < z then i else if y < z then k else j
  a.swapIfInBounds front median

/-- The first place from `i` on with a column that is not below the pivot. -/
def scanUp (a : Array (Nat × β)) (pivot : Nat) : (fuel : Nat) → (i : Nat) → Nat
  | 0, i => i
  | fuel + 1, i => if columnAt a i < pivot then scanUp a pivot fuel (i + 1) else i

/-- The last place up to `j` with a column that is not above the pivot. -/
def scanDown (a : Array (Nat × β)) (pivot : Nat) : (j : Nat) → Nat
  | 0 => 0
  | j + 1 => if pivot < columnAt a (j + 1) then scanDown a pivot j else j + 1

/-- Splits the places from `first` to below `last`: the columns below the pivot come first. The
result has the place of the cut. -/
def split (pivot : Nat) : (fuel : Nat) → (first last : Nat) → Array (Nat × β) →
    Nat × Array (Nat × β)
  | 0, first, _, a => (first, a)
  | fuel + 1, first, last, a =>
    let i := scanUp a pivot a.size first
    let j := scanDown a pivot (last - 1)
    if i < j then split pivot fuel (i + 1) j (a.swapIfInBounds i j) else (i, a)

/-! ### Heaps -/

/-- The greater of the entries below the entry `i` of a heap of `size` entries that starts at
`base`; of two in one column the second. -/
def greaterChild? (a : Array (Nat × β)) (base size i : Nat) : Option Nat :=
  let j := 2 * i + 1
  if size ≤ j then none
  else if j + 1 < size && columnAt a (base + j) ≤ columnAt a (base + j + 1) then some (j + 1)
  else some j

/-- Exchanges the entry `i` of a heap with the greater one below it as long as there is one. The
result has the place where the entry ends. -/
def sink (base size : Nat) : (fuel : Nat) → (i : Nat) → Array (Nat × β) → Nat × Array (Nat × β)
  | 0, i, a => (i, a)
  | fuel + 1, i, a =>
    match greaterChild? a base size i with
    | some j => sink base size fuel j (a.swapIfInBounds (base + i) (base + j))
    | none => (i, a)

/-- Exchanges the entry `i` of a heap with the one above it as long as that is less, up to the entry
`top`. -/
def rise (base top : Nat) : (fuel : Nat) → (i : Nat) → Array (Nat × β) → Array (Nat × β)
  | 0, _, a => a
  | fuel + 1, i, a =>
    let parent := (i - 1) / 2
    if top < i && columnAt a (base + parent) < columnAt a (base + i) then
      rise base top fuel parent (a.swapIfInBounds (base + parent) (base + i))
    else a

/-- Finds the place of the entry `i` among those below it: all the way down, and then up. -/
def settleEntry (base size i : Nat) (a : Array (Nat × β)) : Array (Nat × β) :=
  let (j, a) := sink base size size i a
  rise base i size j a

/-- Sorts the places from `first` to below `last` as a heap, whose greatest entry is taken out again
and again. -/
def heapSort (first last : Nat) (a : Array (Nat × β)) : Array (Nat × β) :=
  let size := last - first
  let heap := (List.range (size / 2)).reverse.foldl (fun a i => settleEntry first size i a) a
  (List.range size).reverse.foldl
    (fun a k => settleEntry first k 0 (a.swapIfInBounds first (first + k))) heap

/-! ### The whole order -/

/-- Splits the places from `first` to below `last` into parts of at most sixteen, with at most
`depth` cuts on the way to each of them. A longer part that no cut is left for is sorted. -/
def splitAll : (depth : Nat) → (first last : Nat) → Array (Nat × β) → Array (Nat × β)
  | 0, first, last, a => if last - first ≤ 16 then a else heapSort first last a
  | depth + 1, first, last, a =>
    if last - first ≤ 16 then a
    else
      let a := medianToFront a first (first + 1) (first + (last - first) / 2) (last - 1)
      let (cut, a) := split (columnAt a first) a.size (first + 1) last a
      splitAll depth first cut (splitAll depth cut last a)

/-- Puts an entry behind all those whose columns are not above its own. -/
def insertEntry (e : Nat × β) : List (Nat × β) → List (Nat × β)
  | [] => [e]
  | f :: es => if e.1 < f.1 then e :: f :: es else f :: insertEntry e es

/-- The entries in the order of their columns, those of one column as they were. -/
def insertionSort (es : List (Nat × β)) : List (Nat × β) :=
  es.foldl (fun sorted e => insertEntry e sorted) []

/-- The entries in the order in which those of each column are added up. -/
def sortEntries (es : List (Nat × β)) : List (Nat × β) :=
  let a := es.toArray
  insertionSort (splitAll (2 * Nat.log2 a.size) 0 a.size a).toList

/-- The columns come in order. -/
def isSorted : List (Nat × β) → Bool
  | e :: f :: es => e.1 ≤ f.1 && isSorted (f :: es)
  | _ => true

end Milp.Matrix
