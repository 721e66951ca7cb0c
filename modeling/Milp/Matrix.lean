import Milp.Matrix.Order
import Milp.Message
import Milp.Numeric.Item
import Milp.Inquiry

/-!
# Matrix form

A message as the data of a mixed integer program: minimize `c * x` where `x` lies between bounds,
some of its entries are integers, and every row of a matrix times `x` lies between bounds of its
own. A maximum is found as the minimum of the negated objective. Messages come in as data, and every
field is read where it is first needed.
-/

namespace Milp

open Numeric (ItemError)

/-- Rows of coefficients, one for every variable, with a bound on either side; nothing stands for no
bound. -/
structure RowBlock (α : Type) where
  rows : List (List α)
  lower : List (Option α)
  upper : List (Option α)
  deriving DecidableEq, Repr

/-- A mixed integer program. -/
structure Program (α : Type) where
  objective : List α
  integrality : List Bool
  lower : List (Option α)
  upper : List (Option α)
  blocks : List (RowBlock α)
  deriving DecidableEq, Repr

/-- How data become the numbers of a program. -/
structure Arrays (δ α : Type) where
  /-- Adds a datum to a coefficient of the objective. -/
  increase : α → δ → Except ItemError α
  /-- Data as entries of a matrix, with the entry that stands where there is none. -/
  gather : List δ → Except ItemError (α × List α)
  /-- The sum of two entries of a matrix. -/
  plus : α → α → α
  /-- Bounds of variables; nothing stands for no bound. -/
  bounds : List (Option δ) → Except ItemError (List (Option α))
  /-- The offsets of rows; nothing is the result when they do not make a list. -/
  offsets : δ → Except ItemError (Option (List α))

/-- Plain data as numbers of a program, all of which are measures. -/
def Arrays.ofMeasures {δ α : Type} [Scalar α] (q : Inquiry δ α) : Arrays δ α where
  increase x d := do
    (Scalar.add x (← (q.measure d).mapError .datum)).mapError (.datum ∘ .scalar)
  gather ds := do return (Scalar.zero, ← (ds.mapM q.measure).mapError .datum)
  plus x y := (Scalar.add x y).toOption.getD x
  bounds ds := (ds.mapM (Option.mapM q.measure)).mapError .datum
  offsets d := (do return some (← (← q.items d).mapM q.measure)).mapError .datum

/-- Why a message has no matrix form. -/
inductive MatrixError where
  | datum (e : DatumError)
  | item (e : ItemError)
  | unknownVariable (name : String)
  /-- There are not as many offsets as rows. -/
  | offsetCount
  deriving DecidableEq, Repr

def MatrixError.message : MatrixError → String
  | .datum e => e.message
  | .item e => e.message
  | .unknownVariable name => "Term refers to unknown variable '" ++ name ++ "'"
  | .offsetCount =>
    "\x60lb\x60, \x60ub\x60, and \x60keep_feasible\x60 must be broadcastable to shape " ++
      "\x60A.shape[0:1]\x60"

def MatrixError.errorClass : MatrixError → ErrorClass
  | .datum e => e.errorClass
  | .item e => e.errorClass
  | .unknownVariable _ | .offsetCount => .value

namespace Program

variable {δ α β : Type}

section Fields

variable (q : Inquiry δ β)

/-! ### Fields of a message -/

def get (d : δ) (key : String) : Except MatrixError δ := (q.get d key).mapError .datum

/-- The items of a list. -/
def itemsOf (d : δ) : Except MatrixError (List δ) := (q.items d).mapError .datum

/-- A name, under which something can be filed. -/
def checkName (name : δ) : Except MatrixError δ :=
  match q.unfit? name with
  | some kind => .error (.datum (.unhashable kind))
  | none => .ok name

/-- The names of the variables. -/
def readNames (columns : List δ) : Except MatrixError (List δ) :=
  columns.mapM fun v => do checkName q (← get q v "name")

/-- The column of a name: the last one that bears it. -/
def column (names : List δ) (name : δ) : Except MatrixError Nat := do
  let name ← checkName q name
  match names.reverse.findIdx? (q.sameName name) with
  | some i => return names.length - 1 - i
  | none => throw (.unknownVariable (← (q.plain name).mapError .datum))

/-- The column and the factor of a term; the factor has not been looked at. -/
def readTerm (names : List δ) (t : δ) : Except MatrixError (Nat × δ) := do
  let j ← column q names (← get q t "name")
  return (j, ← get q t "factor")

/-- The terms of a row. -/
def readRow (names : List δ) (row : δ) : Except MatrixError (List (Nat × δ)) := do
  (← itemsOf q row).mapM (readTerm q names)

end Fields

/-! ### Rows -/

/-- Adds up neighbours of one column, from the first entry on. -/
def mergeFrom (plus : α → α → α) (e : Nat × α) : List (Nat × α) → List (Nat × α)
  | [] => [e]
  | f :: fs =>
    if e.1 = f.1 then mergeFrom plus (e.1, plus e.2 f.2) fs else e :: mergeFrom plus f fs

/-- The coefficients of a row of `n`. -/
def dense (plus : α → α → α) (zero : α) (n : Nat) (entries : List (Nat × α)) : List α :=
  entries.foldl (fun row e => row.modify e.1 (plus · e.2)) (List.replicate n zero)

/-- Hands the entries of a matrix out to its rows. -/
def deal : List (List (Nat × δ)) → List α → List (List (Nat × α))
  | [], _ => []
  | row :: rows, entries =>
    (row.zip (entries.take row.length)).map (fun e => (e.1.1, e.2)) ::
      deal rows (entries.drop row.length)

/-- The rows of a matrix with `n` columns. If the columns of any row are out of order, the entries
of all rows are sorted; then the entries of one column are added up. -/
def matrix (arrays : Arrays δ α) (n : Nat) (terms : List (List (Nat × δ))) :
    Except MatrixError (List (List α)) := do
  let (zero, entries) ← (arrays.gather (terms.flatMap (·.map Prod.snd))).mapError .item
  let rows := deal terms entries
  let sorted := if rows.all Matrix.isSorted then rows else rows.map Matrix.sortEntries
  return sorted.map fun row =>
    dense arrays.plus zero n (match row with
      | [] => []
      | e :: es => mergeFrom arrays.plus e es)

/-- Bounds that a list of offsets puts on rows; a single offset goes for all rows. -/
def spread (count : Nat) (offsets : List α) : Except MatrixError (List α) :=
  if offsets.length = count then .ok offsets
  else
    match offsets with
    | [x] => .ok (List.replicate count x)
    | _ => .error .offsetCount

section Message

variable [Scalar α] (q : Inquiry δ β) (arrays : Arrays δ α)

/-- The rows of one kind of constraints, if there are any. -/
def readBlock (names : List δ) (message : δ) (rowsKey offsetsKey : String) (equality : Bool) :
    Except MatrixError (List (RowBlock α)) := do
  let rows ← get q message rowsKey
  if ← (q.truth rows).mapError .datum then
    let terms ← (← itemsOf q rows).mapM (readRow q names)
    let matrix ← matrix arrays names.length terms
    match ← (arrays.offsets (← get q message offsetsKey)).mapError .item with
    | none => throw .offsetCount
    | some offsets =>
      let limits ← spread matrix.length (offsets.map Scalar.neg)
      let upper := limits.map some
      return [⟨matrix, if equality then upper else List.replicate matrix.length none, upper⟩]
  else return []

/-! ### The whole program -/

/-- The coefficients of the objective. -/
def readObjective (names : List δ) (message : δ) : Except MatrixError (List α) := do
  (← itemsOf q (← get q message "objective")).foldlM
    (fun row t => do
      let (j, factor) ← readTerm q names t
      match row[j]? with
      | none => return row
      | some x => return row.set j (← (arrays.increase x factor).mapError .item))
    (List.replicate names.length Scalar.zero)

/-- The bounds of the variables on one side. -/
def readBounds (key : String) (columns : List δ) : Except MatrixError (List (Option α)) := do
  let bounds ← columns.mapM fun v => do
    let d ← get q v key
    return if q.isNull d then none else some d
  (arrays.bounds bounds).mapError .item

/-- Some variable has a starting value; those after it are not looked at. -/
def hasInitial : List δ → Except MatrixError Bool
  | [] => .ok false
  | v :: rest => do
    if q.isNull (← (q.find v "initial").mapError .datum) then hasInitial rest else return true

/-- The matrix form of a message with the given variables. Starting values are of no use in it. -/
def ofMessage (message : δ) (columns : List δ) : Except MatrixError (Program α) := do
  let names ← readNames q columns
  let objective ← readObjective q arrays names message
  let direction ← get q message "direction"
  let isMaximum ← (q.isText direction Direction.maximize.text).mapError .datum
  let objective := if isMaximum then objective.map Scalar.neg else objective
  let lower ← readBounds q arrays "min" columns
  let upper ← readBounds q arrays "max" columns
  let integrality ← columns.mapM fun v => do (q.truth (← get q v "integer")).mapError .datum
  discard (hasInitial q columns)
  let inequalities ← readBlock q arrays names message "constraints" "constraint_offsets" false
  let equalities ← readBlock q arrays names message "equalities" "equalities_offsets" true
  return ⟨objective, integrality, lower, upper, inequalities ++ equalities⟩

/-- The constraints of a message are counted for a log, also where there are none to read. -/
def checkCounts (message : δ) : Except MatrixError Unit := do
  discard ((q.size (← get q message "constraints")).mapError .datum)
  discard ((q.size (← get q message "equalities")).mapError .datum)

end Message

end Program

end Milp
