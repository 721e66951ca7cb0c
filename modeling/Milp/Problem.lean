import Milp.Message
import Milp.Options
import Milp.Source

/-!
# Problems

A problem has a register of variables, by the names under which they were registered, and a list of
constraints. Everything that a problem is given may only mention variables of its register, and that
by identity, not by name.

What a problem does is an action on the problem together with the store of all variables. An action
that fails still has a state in which it left the two.
-/

namespace Milp

/-- A register of variables and a list of constraints. -/
structure Problem (ν α : Type) [BEq ν] where
  register : List (ν × Var)
  constraints : List (Constraint ν α)

/-- A problem and the store in which its variables are. -/
structure Model (ν δ α : Type) [BEq ν] where
  store : Store ν δ
  problem : Problem ν α

/-- Why a problem refuses what it is given. -/
inductive ProblemError (ν α : Type) [BEq ν] where
  | duplicate (name : ν)
  | foreignVariable (name : ν)
  | unknownDirection (display : String)
  | source (e : SourceError ν α)
  | datum (e : DatumError)

namespace ProblemError

variable {ν α : Type} [Name ν] [Scalar α]

/-- The message of an error; writing the tokens in it may fail. -/
def message (name : Var → ν) : ProblemError ν α → Except NameError String
  | duplicate x => .ok ("variable '" ++ Name.text x ++ "' exists")
  | foreignVariable x => .ok ("Variable '" ++ Name.text x ++ "' is not part of this problem")
  | unknownDirection display => .ok (display ++ " is not a valid Sense")
  | source e => e.message name
  | datum e => .ok e.message

def errorClass : ProblemError ν α → ErrorClass
  | duplicate _ => .duplicateVariable
  | foreignVariable _ | unknownDirection _ => .value
  | source e => e.errorClass
  | datum e => e.errorClass

end ProblemError

namespace Problem

/-- What a problem is called that has not been given a name. -/
def defaultName : String := "MILP"

variable {ν α : Type}

section BEq

variable [BEq ν]

/-- A problem without variables. -/
def empty : Problem ν α := ⟨[], []⟩

/-- The variables in the order of their registration. -/
def vars (p : Problem ν α) : List Var := p.register.map Prod.snd

/-- The names of registration, in order. -/
def names (p : Problem ν α) : List ν := p.register.map Prod.fst

/-- The variable that was registered under a name. -/
def find? (p : Problem ν α) (name : ν) : Option Var := p.register.lookup name

end BEq

variable [Name ν]

/-- Refuses a variable that is not the one registered under its name. -/
def checkVar (p : Problem ν α) (name : ν) (x : Var) : Except (ProblemError ν α) Unit :=
  match Name.unfit? name with
  | some kind => .error (.datum (.unhashable kind))
  | none => if p.find? name == some x then .ok () else .error (.foreignVariable name)

/-- Refuses an expression that mentions a variable of another problem. -/
def check (p : Problem ν α) (name : Var → ν) (e : Affine ν α) : Except (ProblemError ν α) Unit :=
  e.vars.forM fun x => p.checkVar (name x) x

end Problem

/-! ### Actions -/

/-- What a problem does: it changes the state, and it has a result or an error. -/
abbrev Action (ν δ α ε : Type) [BEq ν] := EStateM ε (Model ν δ α)

namespace Model

variable {ν δ α : Type} [Name ν] [Inhabited (Variable ν δ)] [Scalar α]

/-- A computation that leaves the state alone. -/
def lift {ε τ : Type} (r : Except ε τ) : Action ν δ α ε τ :=
  match r with
  | .ok x => pure x
  | .error e => throw e

/-- The line that a log has on a new variable. -/
def variableLine (q : Inquiry δ α) (v : Variable ν δ) : Except DatumError String := do
  return "Added variable " ++ Name.text v.name ++ " (min=" ++ (← q.plain v.min) ++ ", max=" ++
    (← q.plain v.max) ++ ", integer=" ++ (← q.plain v.integer) ++ ")"

/-- Registers a new variable. The log is written when that is done. -/
def addVariable (q : Inquiry δ α) (v : Variable ν δ) :
    Action ν δ α (ProblemError ν α) Var := do
  let m ← get
  match Name.unfit? v.name with
  | some kind => throw (.datum (.unhashable kind))
  | none => pure ()
  if (m.problem.find? v.name).isSome then throw (.duplicate v.name)
  let x := m.store.fresh
  set (Model.mk (m.store.push v)
    { m.problem with register := m.problem.register ++ [(v.name, x)] })
  lift (discard ((variableLine q v).mapError .datum))
  return x

/-- A left side, the text of a comparator and a right side. -/
def compareText (name : Var → ν) (left : Operand ν α) (sense : String) (right : Operand ν α) :
    Except (SourceError ν α) (Constraint ν α) :=
  match Sense.ofText? sense with
  | some s => (Constraint.compare name left s right).mapError .algebra
  | none => .error (.algebra (.unknownComparator (Text.quoted sense)))

/-- The text that an operand is. -/
def textOf? : Operand ν α → Option String
  | .other o => o.text?
  | _ => none

/-- The constraint that is meant: a constraint as it is, a left side with the text of a comparator
and a right side, or a source. -/
def readConstraint (name : Var → ν) (g : Given ν α) (operands : List (Operand ν α)) :
    Except (SourceError ν α) (Constraint ν α) :=
  match g, operands with
  | .constraint c, [] => .ok c
  | .source s, operands => do
    let t ← (s.toTemplate operands).mapError .template
    let (left, sense, right) ← t.evaluateConstraint name
    compareText name (.expression left) sense (.expression right)
  | g, [sense, right] =>
    match textOf? sense with
    | some sense => compareText name g.toOperand sense right
    | none => .error (.template (.notASource g.toOperand.kind.name))
  | g, _ => .error (.template (.notASource g.toOperand.kind.name))

/-- Adds a constraint at the end. The log is written when that is done. -/
def addConstraint (g : Given ν α) (operands : List (Operand ν α)) :
    Action ν δ α (ProblemError ν α) (Constraint ν α) := do
  let m ← get
  let name := m.store.name
  let c ← lift ((readConstraint name g operands).mapError .source)
  lift (m.problem.check name c.expression)
  set { m with problem := { m.problem with constraints := m.problem.constraints ++ [c] } }
  lift (discard ((c.display name).mapError (.source ∘ .ofName)))
  return c

/-- The line that a log has on a new constraint. -/
def constraintLine (name : Var → ν) (c : Constraint ν α) : Except NameError String := do
  let text ← c.display name
  c.expression.requireNumbers
  return "Added constraint " ++ text

/-- Adds a constraint at the end, as `addConstraint` does. The numbers in it are written in the log
too, which not every number can be. -/
def postConstraint (g : Given ν α) (operands : List (Operand ν α)) :
    Action ν δ α (ProblemError ν α) (Constraint ν α) := do
  let c ← addConstraint g operands
  let m ← get
  lift (discard ((constraintLine m.store.name c).mapError (.source ∘ .ofName)))
  return c

/-- The expression of an objective. -/
def objective (g : Given ν α) (operands : List (Operand ν α)) :
    Action ν δ α (ProblemError ν α) (Affine ν α) := do
  let m ← get
  lift ((g.evaluate m.store.name .operandsOfObjective operands).mapError .source)

/-! ### The message -/

section Message

variable (q : Inquiry δ α)

/-- Terms under the present names of their variables, with factors that are measures. -/
def row (name : Var → ν) (e : Affine ν α) : Except DatumError (Row ν α) :=
  (e.terms name).mapM fun t => do return (t.1, ← (Scalar.measure t.2).mapError .scalar)

def offset (e : Affine ν α) : Except DatumError α := (Scalar.measure e.constant).mapError .scalar

/-- A variable as a solver is told of it. -/
def column (v : Variable ν δ) : Except DatumError (Column ν α) := do
  let min ← q.measure? v.min
  let max ← q.measure? v.max
  let initial ← q.measure? v.initial
  return ⟨v.name, min, max, initial, ← q.truth v.integer⟩

/-- The message for a direction and an objective that has been checked. -/
def serialize (m : Model ν δ α) (direction : Direction) (objective : Affine ν α)
    (options : Option (Options δ)) : Except DatumError (Message ν α) := do
  let name := m.store.name
  let expressions := m.problem.constraints.filter (!·.isEquality) |>.map Constraint.expression
  let equations := m.problem.constraints.filter (·.isEquality) |>.map Constraint.expression
  let columns ← m.problem.vars.mapM fun x => column q (m.store.get x)
  let objectiveRow ← row name objective
  let objectiveOffset ← offset objective
  let constraints ← expressions.mapM (row name)
  let constraintOffsets ← expressions.mapM offset
  let equalities ← equations.mapM (row name)
  let equalitiesOffsets ← equations.mapM offset
  let verbose ← match options with
    | none => .ok false
    | some o => do q.truth (← o.get "verbose")
  return { direction, columns, objective := objectiveRow, objectiveOffset, constraints,
           constraintOffsets, equalities, equalitiesOffsets, verbose }

/-- The message for an objective, which is checked first, and the constraints after it. -/
def message (m : Model ν δ α) (direction : Direction) (objective : Operand ν α)
    (options : Option (Options δ)) : Except (ProblemError ν α) (Message ν α) := do
  let name := m.store.name
  let objective ← (objective.lift name).mapError (.source ∘ .algebra)
  m.problem.check name objective
  m.problem.constraints.forM fun c => m.problem.check name c.expression
  (m.serialize q direction objective options).mapError .datum

end Message

end Model

end Milp
