import Milp.Affine.Evaluation
import Milp.Problem
import Milp.Solution

/-!
# Solving a problem

The message of a problem goes to a solver, and the values of an optimal answer go to the variables,
by the order of the register. The solver is any function of the message and of a state of its own.
-/

namespace Milp

/-- A solver with a state: it answers, or it fails. -/
abbrev Solver (ν δ α σ ε : Type) := Message ν α → σ → Except ε δ × σ

/-- Why a problem was not solved. -/
inductive SolveError (ν α ε : Type) [BEq ν] where
  | problem (e : ProblemError ν α)
  | solver (e : ε)
  | answer (e : AnswerError)
  | evaluation (e : EvaluationError)
  /-- The line on the solution could not be written. -/
  | log (e : DatumError)

/-- What is known of data: the questions that they can be asked, which operands they are, and how
numbers are written. -/
structure DataView (ν δ α : Type) [BEq ν] where
  inquiry : Inquiry δ α
  operand : δ → Operand ν α
  /-- The form of a number that stands alone. -/
  plain : α → Except DatumError String

/-- The view of plain data; `ofText` reads a number in writing. -/
def Datum.view {ν α : Type} [BEq ν] [Scalar α] (ofText : String → Option α) :
    DataView ν (Datum α) α where
  inquiry := Datum.inquiry ofText
  operand
    | .number n => .number n
    | .text s => .other ⟨.plain "str", some s, true, Text.size s⟩
    | .list items => .other ⟨.plain "list", none, true, items.length⟩
    | d => .other (.named d.kind.name)
  plain n := .ok (Scalar.plain n)

namespace Model

variable {ν δ α σ ε : Type} [Name ν] [Inhabited (Variable ν δ)] [Scalar α] [Data δ α]

/-- Gives every variable of the register the value filed under its name of registration. -/
def assign (m : Model ν δ α) (values : List (ν × δ)) : Model ν δ α :=
  { m with
    store := m.problem.register.foldl (fun s r =>
      s.modify r.2 fun v => { v with value := (values.lookup r.1).getD Data.null }) m.store }

/-- Has a solver minimize or maximize an objective, which is also a result. The values of an optimal
solution are stored. -/
def run (view : σ → DataView ν δ α) (solver : Solver ν δ α σ ε) (direction : Direction)
    (g : Given ν α) (operands : List (Operand ν α)) (options : Option (Options δ)) :
    EStateM (SolveError ν α ε) (Model ν δ α × σ) (Affine ν α × Solution ν δ α) := do
  let (m, s) ← get
  let objective ← match g.evaluate m.store.name .operandsOfObjective operands with
    | .ok e => pure e
    | .error e => throw (.problem (.source e))
  let message ← match m.message (view s).inquiry direction (.expression objective) options with
    | .ok message => pure message
    | .error e => throw (.problem e)
  let (reply, s) := solver message s
  set (m, s)
  let answer ← match reply with
    | .ok answer => pure answer
    | .error e => throw (.solver e)
  let solution ← match Solution.ofAnswer (view s).inquiry answer m.problem.names with
    | .ok solution => pure solution
    | .error e => throw (.answer e)
  if solution.isOptimal then set (m.assign solution.values, s)
  return (objective, solution)

/-- The line that a log has on a solution. -/
def solutionLine (view : DataView ν δ α) (name : Var → ν) (x : Solution ν δ α) :
    Except DatumError String := do
  let status ← view.inquiry.plain x.word
  let objective ← match x.objective with
    | none => .ok "None"
    | some (.number n) => view.plain n
    | some v => (v.display name).mapError .name
  return "Solution(status='" ++ status ++ "', objective=" ++ objective ++ ", n_vars=" ++
    toString x.values.length ++ ")"

/-- Gives an optimal solution the value of the objective. The log is written when that is done. -/
def conclude (view : σ → DataView ν δ α) (objective : Affine ν α) (solution : Solution ν δ α) :
    EStateM (SolveError ν α ε) (Model ν δ α × σ) (Solution ν δ α) := do
  let (m, s) ← get
  let solution ←
    if solution.isOptimal then
      let values := fun n => (solution.value? n).map (view s).operand
      match objective.evaluate m.store.name values with
      | .ok v => pure { solution with objective := some v }
      | .error e => throw (.evaluation e)
    else pure solution
  match solutionLine (view s) m.store.name solution with
  | .ok _ => return solution
  | .error e => throw (.log e)

/-- Minimizes or maximizes an objective. The values are stored before the objective is
evaluated. -/
def solve (view : σ → DataView ν δ α) (solver : Solver ν δ α σ ε) (direction : Direction)
    (g : Given ν α) (operands : List (Operand ν α)) (options : Option (Options δ)) :
    EStateM (SolveError ν α ε) (Model ν δ α × σ) (Solution ν δ α) := do
  let (objective, solution) ← run view solver direction g operands options
  conclude view objective solution

end Model

end Milp
