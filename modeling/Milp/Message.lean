import Milp.Datum

/-!
# Messages

What a solver is sent: the direction of the search, the variables, the objective, and the
constraints, each as a list of terms with an offset. The constraint `i` says that the sum of its
terms and its offset is at most zero, or equal to zero for an equality.
-/

namespace Milp

/-- Whether the objective is to become small or large. -/
inductive Direction where
  | minimize
  | maximize
  deriving DecidableEq, Repr

def Direction.text : Direction → String
  | .minimize => "min"
  | .maximize => "max"

/-- What is done to the objective. -/
def Direction.verb : Direction → String
  | .minimize => "minimize"
  | .maximize => "maximize"

def Direction.ofText? : String → Option Direction
  | "min" => some .minimize
  | "max" => some .maximize
  | _ => none

/-- A variable as a solver is told of it. -/
structure Column (ν α : Type) where
  name : ν
  min : Option α
  max : Option α
  initial : Option α
  integer : Bool

/-- A list of names and factors. -/
abbrev Row (ν α : Type) := List (ν × α)

structure Message (ν α : Type) where
  direction : Direction
  columns : List (Column ν α)
  objective : Row ν α
  objectiveOffset : α
  constraints : List (Row ν α)
  constraintOffsets : List α
  equalities : List (Row ν α)
  equalitiesOffsets : List α
  verbose : Bool

/-! ### Messages as data -/

section Data

variable {ν α : Type} (ofName : ν → Datum α)

def optionDatum : Option α → Datum α
  | none => .null
  | some x => .number x

def rowDatum (row : Row ν α) : Datum α :=
  .list (row.map fun t => .record [("name", ofName t.1), ("factor", .number t.2)])

variable [Scalar α]

def Column.toDatum (c : Column ν α) : Datum α :=
  .record [("name", ofName c.name), ("min", optionDatum c.min), ("max", optionDatum c.max),
    ("initial", optionDatum c.initial), ("integer", .number (Scalar.truth c.integer))]

/-- A message as a record with its nine fields; `ofName` tells how a name shows in it. -/
def Message.toDatum (m : Message ν α) : Datum α :=
  .record [
    ("direction", .text m.direction.text),
    ("variables", .list (m.columns.map (Column.toDatum ofName))),
    ("objective", rowDatum ofName m.objective),
    ("objective_offset", .number m.objectiveOffset),
    ("constraints", .list (m.constraints.map (rowDatum ofName))),
    ("constraint_offsets", .list (m.constraintOffsets.map .number)),
    ("equalities", .list (m.equalities.map (rowDatum ofName))),
    ("equalities_offsets", .list (m.equalitiesOffsets.map .number)),
    ("verbose", .number (Scalar.truth m.verbose))]

end Data

end Milp
