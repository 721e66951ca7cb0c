import Milp.Scalar

/-!
# Blocks of entries

A block has entries along any number of dimensions, each of its own length. Two blocks are laid side
by side from their last dimensions on, and where one of them has a length of one, its only entry
goes with all entries of the other.
-/

namespace Milp.Numeric

/-- Entries along dimensions of the given lengths; along the last one they follow each other. -/
structure Block (τ : Type) where
  shape : List Nat
  entries : List τ

/-- Why there is no block, or no use for one. -/
inductive BlockError where
  /-- Lists have different lengths below the dimensions with the given lengths. -/
  | inhomogeneous (shape : List Nat)
  /-- Lists are too deep. -/
  | tooDeep
  /-- Blocks of the shapes cannot be laid side by side. -/
  | unmatched (shapes : List (List Nat))
  /-- A block of one shape has no room for the entries of another. -/
  | noRoom (shape wanted : List Nat)
  /-- The entries of a block of one shape do not fill a block of another. -/
  | unfilled (shape wanted : List Nat)
  /-- An entry of an array has no text at all. -/
  | noWord
  /-- A truth value was asked of a block that does not have exactly one entry. -/
  | ambiguous (isEmpty : Bool)
  /-- There is no such place along a dimension. -/
  | noPlace (place : Int) (axis length : Nat)
  /-- There are fewer dimensions than places were given. -/
  | tooManyPlaces (dimensions places : Nat)
  /-- The truth values along a dimension are not as many as its entries. -/
  | unfitMask (axis length given : Nat)
  /-- Something else than a place was given as one. -/
  | notAPlace
  /-- An array was given whose entries are no places. -/
  | notPlaces
  /-- There are less than two dimensions to change places. -/
  | noColumns
  deriving DecidableEq, Repr

namespace Block

variable {α β τ : Type}

/-- A single entry without dimensions. -/
def single (x : τ) : Block τ := ⟨[], [x]⟩

def map (f : α → β) (b : Block α) : Block β := ⟨b.shape, b.entries.map f⟩

/-- The number of entries of a shape. -/
def volume (shape : List Nat) : Nat := shape.foldr (· * ·) 1

/-- The first `count` pieces of a size. -/
def pieces (size : Nat) : (count : Nat) → List τ → List (List τ)
  | 0, _ => []
  | count + 1, entries => entries.take size :: pieces size count (entries.drop size)

/-- The blocks along the first dimension; a single entry has none. -/
def rows? : Block τ → Option (List (Block τ))
  | ⟨[], _⟩ => none
  | ⟨count :: shape, entries⟩ =>
    some ((pieces (volume shape) count entries).map fun row => ⟨shape, row⟩)

/-! ### Side by side -/

/-- The length of two dimensions side by side. -/
def jointLength (m n : Nat) : Option Nat :=
  if n = m ∨ n = 1 then some m else if m = 1 then some n else none

/-- A shape with `count` dimensions, the first of which are of length one. -/
def widen (count : Nat) (shape : List Nat) : List Nat :=
  List.replicate (count - shape.length) 1 ++ shape

/-- The shape of two blocks side by side. -/
def jointShape (a b : List Nat) : Option (List Nat) :=
  let count := max a.length b.length
  ((widen count a).zip (widen count b)).mapM fun p => jointLength p.1 p.2

/-- The entries of a shape as those of a target with as many dimensions: what has a length of one
is repeated. -/
def stretch : (shape target : List Nat) → List τ → List τ
  | m :: shape, n :: target, entries =>
    let rows := ((pieces (volume shape) m entries).map (stretch shape target)).flatten
    if m = n then rows else (List.replicate n rows).flatten
  | _, _, entries => entries

/-- The pairs of entries of two blocks side by side. -/
def zip (a : Block α) (b : Block β) : Except BlockError (Block (α × β)) :=
  match jointShape a.shape b.shape with
  | none => .error (.unmatched [a.shape, b.shape])
  | some shape =>
    let spread := fun {τ : Type} (b : Block τ) =>
      stretch (widen shape.length b.shape) shape b.entries
    .ok ⟨shape, (spread a).zip (spread b)⟩

/-! ### Dimensions in another order -/

/-- The columns of rows of the same length. -/
def columns : List (List τ) → List (List τ)
  | [] => []
  | [row] => row.map fun x => [x]
  | row :: rest => List.zipWith List.cons row (columns rest)

/-- The entries of a shape, with the dimensions in the opposite order. -/
def turned : (shape : List Nat) → List τ → List τ
  | [], entries => entries
  | n :: shape, entries =>
    (columns ((pieces (volume shape) n entries).map (turned shape))).flatten

/-- The block with its dimensions in the opposite order. -/
def turn (b : Block τ) : Block τ := ⟨b.shape.reverse, turned b.shape b.entries⟩

/-- The entries of a shape, with the last two dimensions in the opposite order. -/
def turnedLast : (shape : List Nat) → List τ → List τ
  | [m, n], entries => turned [m, n] entries
  | m :: shape, entries => (pieces (volume shape) m entries).flatMap (turnedLast shape)
  | [], entries => entries

/-- The block with its last two dimensions in the opposite order, if it has so many. -/
def turnLast (b : Block τ) : Except BlockError (Block τ) :=
  match b.shape.reverse with
  | m :: n :: shape => .ok ⟨(n :: m :: shape).reverse, turnedLast b.shape b.entries⟩
  | _ => .error .noColumns

/-! ### Parts of a block -/

/-- The index of a place along a dimension; places before zero count from the end. -/
def indexOf (axis length : Nat) (place : Int) : Except BlockError Nat :=
  let i := if place < 0 then place + length else place
  if 0 ≤ i ∧ i < length then .ok i.toNat else .error (.noPlace place axis length)

/-- What stands at places along the first dimensions, of which some were left out before. -/
def atPlaces (axis : Nat) (b : Block τ) : (places : List Int) → Except BlockError (Block τ)
  | [] => .ok b
  | place :: places =>
    match b.shape with
    | [] => .error .notAPlace
    | n :: shape => do
      let i ← indexOf axis n place
      let size := volume shape
      atPlaces (axis + 1) ⟨shape, (b.entries.drop (i * size)).take size⟩ places

/-- As `atPlaces`, from the first dimension on. -/
def part (b : Block τ) (places : List Int) : Except BlockError (Block τ) :=
  if b.shape.length < places.length then
    .error (.tooManyPlaces b.shape.length places.length)
  else atPlaces 0 b places

/-- What stands at many places along the first dimension. -/
def gathered (b : Block τ) (places : Block Int) : Except BlockError (Block τ) := do
  let rows ← places.entries.mapM fun place => b.part [place]
  return ⟨places.shape ++ b.shape.drop 1, rows.flatMap Block.entries⟩

/-- Makes sure that truth values along the first dimensions are as many as the entries are. -/
def checkMask (axis : Nat) : (shape mask : List Nat) → Except BlockError Unit
  | n :: shape, m :: mask =>
    if n = m then checkMask (axis + 1) shape mask else .error (.unfitMask axis n m)
  | _, _ => .ok ()

/-- What stands where a truth value is true. -/
def filtered (b : Block τ) (mask : Block Bool) : Except BlockError (Block τ) := do
  if b.shape.length < mask.shape.length then
    throw (.tooManyPlaces b.shape.length mask.shape.length)
  checkMask 0 b.shape mask.shape
  let rest := b.shape.drop mask.shape.length
  let rows := ((pieces (volume rest) mask.entries.length b.entries).zip mask.entries).filter Prod.snd
  return ⟨rows.length :: rest, rows.flatMap Prod.fst⟩

/-- The truth value that a block has as its only entry. -/
def verdict (b : Block Bool) : Except BlockError Bool :=
  match b.entries with
  | [x] => .ok x
  | entries => .error (.ambiguous entries.isEmpty)

end Block

/-- The lengths of dimensions in writing. -/
def shapeText (separator : String) : List Nat → String
  | [n] => "(" ++ toString n ++ ",)"
  | shape => "(" ++ separator.intercalate (shape.map toString) ++ ")"

def BlockError.message : BlockError → String
  | .inhomogeneous shape =>
    "setting an array element with a sequence. The requested array has an inhomogeneous shape " ++
      "after " ++ toString shape.length ++ " dimensions. The detected shape was " ++
      shapeText ", " shape ++ " + inhomogeneous part."
  | .tooDeep =>
    "setting an array element with a sequence. The requested array would exceed the maximum " ++
      "number of dimension of 64."
  | .unmatched shapes =>
    "operands could not be broadcast together with shapes " ++
      String.join (shapes.map fun shape => shapeText "," shape ++ " ")
  | .noRoom shape wanted =>
    "non-broadcastable output operand with shape " ++ shapeText "," shape ++
      " doesn't match the broadcast shape " ++ shapeText "," wanted
  | .unfilled shape wanted =>
    "could not broadcast input array from shape " ++ shapeText "," shape ++ " into shape " ++
      shapeText "," wanted
  | .noWord => "max() arg is an empty sequence"
  | .ambiguous true =>
    "The truth value of an empty array is ambiguous. Use \x60array.size > 0\x60 to check that " ++
      "an array is not empty."
  | .ambiguous false =>
    "The truth value of an array with more than one element is ambiguous. Use a.any() or a.all()"
  | .noPlace place axis length =>
    "index " ++ integerText place ++ " is out of bounds for axis " ++ toString axis ++
      " with size " ++ toString length
  | .tooManyPlaces dimensions places =>
    "too many indices for array: array is " ++ toString dimensions ++ "-dimensional, but " ++
      toString places ++ " were indexed"
  | .unfitMask axis length given =>
    "boolean index did not match indexed array along axis " ++ toString axis ++
      "; size of axis is " ++ toString length ++ " but size of corresponding boolean axis is " ++
      toString given
  | .notAPlace =>
    "only integers, slices (\x60:\x60), ellipsis (\x60...\x60), numpy.newaxis " ++
      "(\x60None\x60) and integer or boolean arrays are valid indices"
  | .notPlaces => "arrays used as indices must be of integer (or boolean) type"
  | .noColumns => "matrix transpose with ndim < 2 is undefined"

def BlockError.errorClass : BlockError → ErrorClass
  | .inhomogeneous _ | .tooDeep | .unmatched _ | .noRoom .. | .unfilled .. | .noWord
  | .ambiguous _ | .noColumns => .value
  | .noPlace .. | .tooManyPlaces .. | .unfitMask .. | .notAPlace | .notPlaces => .place

end Milp.Numeric
