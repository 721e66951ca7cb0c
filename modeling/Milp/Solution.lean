import Milp.Inquiry
import Milp.Operand

/-!
# Solutions

A solver answers with a status and, for an optimal solution, one value for every variable in the
order in which the variables were sent. A solution files the values under the names of the
variables.
-/

namespace Milp

inductive Status where
  | optimal
  | unbounded
  | infeasible
  deriving DecidableEq, Repr

def Status.text : Status → String
  | .optimal => "optimal"
  | .unbounded => "unbounded"
  | .infeasible => "infeasible"

def Status.ofText? : String → Option Status
  | "optimal" => some .optimal
  | "unbounded" => some .unbounded
  | "infeasible" => some .infeasible
  | _ => none

/-- What came out of a solver. -/
structure Solution (ν δ α : Type) [BEq ν] where
  status : Status
  /-- The status as the solver has put it. -/
  word : δ
  /-- The values, by the names of the variables. -/
  values : List (ν × δ)
  /-- The value of the objective, or nothing. -/
  objective : Option (Operand ν α)

/-- Why an answer is no solution. -/
inductive AnswerError where
  | datum (e : DatumError)
  | valueCount (values names : Nat)
  | unknownStatus (display : String)
  deriving DecidableEq, Repr

def AnswerError.message : AnswerError → String
  | .datum e => e.message
  | .valueCount values names =>
    "Backend returned " ++ toString values ++ " values for " ++ toString names ++ " variables"
  | .unknownStatus display =>
    "Unknown status " ++ display ++ ", expected one of ('optimal', 'unbounded', 'infeasible')"

def AnswerError.errorClass : AnswerError → ErrorClass
  | .datum e => e.errorClass
  | .valueCount .. | .unknownStatus _ => .value

namespace Solution

variable {ν δ α : Type} [Name ν] (q : Inquiry δ α)

/-- The status that a datum says. -/
def readStatus (word : δ) : Except AnswerError Status := do
  let is := fun status : Status => (q.isText word status.text).mapError .datum
  if ← is .optimal then return .optimal
  if ← is .unbounded then return .unbounded
  if ← is .infeasible then return .infeasible
  throw (.unknownStatus (← (q.display word).mapError .datum))

/-- Files values under names. -/
def fileValues (names : List ν) (values : List δ) : Except AnswerError (List (ν × δ)) := do
  let fields := names.zip values
  match fields.findSome? fun f => Name.unfit? f.1 with
  | some kind => throw (.datum (.unhashable kind))
  | none => return fieldsOfList fields

/-- The values that an answer carries, none where the field for them counts as false. -/
def readValues (answer : δ) : Except AnswerError (List δ) := do
  let given ← (q.find answer "values").mapError .datum
  if ← (q.truth given).mapError .datum then (q.items given).mapError .datum else return []

/-- An answer needs a value for every name if it carries any values or is optimal. -/
def needsValues (answer : δ) (values : List δ) : Except AnswerError Bool :=
  if values.isEmpty then do
    let word ← (q.get answer "status").mapError .datum
    (q.isText word Status.optimal.text).mapError .datum
  else .ok true

/-- Reads the answer of a solver. Values of whatever number must be as many as the names, and an
optimal answer must have them. -/
def ofAnswer (answer : δ) (names : List ν) : Except AnswerError (Solution ν δ α) := do
  let values ← readValues q answer
  if (← needsValues q answer values) && values.length ≠ names.length then
    throw (.valueCount values.length names.length)
  let word ← (q.get answer "status").mapError .datum
  let values ← fileValues names values
  let status ← readStatus q word
  return ⟨status, word, values, none⟩

def isOptimal (s : Solution ν δ α) : Bool := s.status = .optimal

/-- The value filed under a name. -/
def value? (s : Solution ν δ α) (name : ν) : Option δ := s.values.lookup name

end Solution

end Milp
