import Milp.Matrix
import Milp.Options
import Milp.Solution

/-!
# Solving in matrix form

A message is brought into matrix form and given to an engine. An engine that can only say that a
program is infeasible or unbounded is asked once more, for the same program with an objective of
zero: that one is feasible exactly when the program is unbounded.
-/

namespace Milp

/-- What an engine says of a program. -/
structure Outcome (α : Type) where
  code : Int
  message : String
  point : Option (List α)

/-- Whether an engine is to show progress, and the limits that it is set. -/
structure Settings (δ : Type) where
  loud : Bool
  timeLimit : Option δ
  gap : Option δ

/-- A program and the settings with which it is given to the engine. -/
structure Call (δ α : Type) where
  program : Program α
  settings : Settings δ

/-- An engine with a state: it has an outcome, or it fails. -/
abbrev Engine (δ α σ ε : Type) := Call δ α → σ → Except ε (Outcome α) × σ

/-- Why a message got no answer. -/
inductive VerdictError (ε : Type) where
  | matrix (e : MatrixError)
  /-- The options have no such setting. -/
  | options (e : DatumError)
  /-- The engine stopped without a verdict. -/
  | undecided (code : Int) (message : String)
  /-- The engine has found an optimum and holds no point. -/
  | noPoint
  | engine (e : ε)
  deriving DecidableEq, Repr

/-- A status and, for an optimum, the values of the variables. -/
structure Verdict (α : Type) where
  status : Status
  values : List α
  deriving DecidableEq, Repr

/-- A verdict as the answer that a solver gives. -/
def Verdict.toDatum {α : Type} (v : Verdict α) : Datum α :=
  .record [("status", .text v.status.text), ("values", .list (v.values.map .number))]

/-- The text has the word in it. -/
def mentions {τ : Type} [BEq τ] (text word : List τ) : Bool :=
  match text with
  | [] => word.isEmpty
  | c :: cs => word.isPrefixOf (c :: cs) || mentions cs word

namespace Outcome

variable {α : Type}

/-- The status that an outcome stands for by its code alone. -/
def status? (o : Outcome α) : Option Status :=
  if o.code = 0 then some .optimal
  else if o.code = 2 then some .infeasible
  else if o.code = 3 then some .unbounded
  else none

/-- The engine says, in whatever letter case, that the program is infeasible or unbounded. -/
def isAmbiguous (o : Outcome α) : Bool :=
  let text := o.message.toList.map Char.toLower
  o.code = 4 && mentions text "infeasible".toList && mentions text "unbounded".toList

/-- The verdict with a status; it has values only for an optimum. -/
def verdict {ε : Type} (o : Outcome α) (status : Status) : Except (VerdictError ε) (Verdict α) :=
  match status, o.point with
  | .optimal, some x => .ok ⟨status, x⟩
  | .optimal, none => .error .noPoint
  | _, _ => .ok ⟨status, []⟩

end Outcome

namespace Program

variable {δ α β σ ε : Type} [Scalar α]

/-- The same program with an objective of zero. -/
def feasibility (p : Program α) : Program α :=
  { p with objective := p.objective.map fun _ => Scalar.zero }

section Settings

variable (q : Inquiry δ β)

/-- The settings of a call. The options are asked whether to show progress only if the message does
not say so. -/
def settings (message : δ) (options : Options δ) : Except DatumError (Settings δ) := do
  let loud ← if ← q.truth (← q.find message "verbose") then .ok true
    else q.truth (← options.get "verbose")
  let limit := fun d => if q.isNull d then none else some d
  let timeLimit ← options.get "time_limit"
  let gap ← options.get "mip_rel_gap"
  return ⟨loud, limit timeLimit, limit gap⟩

end Settings

/-- Asks the engine once, and for a verdict between infeasible and unbounded a second time. -/
def verdict (engine : Engine δ α σ ε) (c : Call δ α) (s : σ) :
    Except (VerdictError ε) (Verdict α) × σ :=
  match engine c s with
  | (.error e, s) => (.error (.engine e), s)
  | (.ok first, s) =>
    match first.status? with
    | some status => (first.verdict status, s)
    | none =>
      if first.isAmbiguous then
        match engine { c with program := c.program.feasibility } s with
        | (.error e, s) => (.error (.engine e), s)
        | (.ok second, s) =>
          if second.code = 0 then (second.verdict .unbounded, s)
          else if second.code = 2 then (second.verdict .infeasible, s)
          else (.error (.undecided second.code second.message), s)
      else (.error (.undecided first.code first.message), s)

/-- The variables of a message, which has to tell their number. -/
def variablesOf (q : Inquiry δ β) (message : δ) : Except MatrixError (List δ) := do
  let columns ← get q message "variables"
  if (← (q.size columns).mapError .datum) = 0 then return []
  itemsOf q columns

/-- The call that a message with variables leads to. -/
def callOf (q : Inquiry δ β) (arrays : Arrays δ α) (options : Options δ) (message : δ)
    (columns : List δ) : Except (VerdictError ε) (Call δ α) := do
  let program ← (ofMessage q arrays message columns).mapError .matrix
  let settings ← (settings q message options).mapError .options
  (checkCounts q message).mapError .matrix
  return ⟨program, settings⟩

/-- Answers a message. A message without variables needs no engine. -/
def answerMessage (q : Inquiry δ β) (arrays : Arrays δ α) (options : Options δ)
    (engine : Engine δ α σ ε) (message : δ) (s : σ) :
    Except (VerdictError ε) (Verdict α) × σ :=
  match variablesOf q message with
  | .error e => (.error (.matrix e), s)
  | .ok [] => (.ok ⟨.optimal, []⟩, s)
  | .ok columns =>
    match callOf q arrays options message columns with
    | .error e => (.error e, s)
    | .ok c => verdict engine c s

end Program

/-- The wording of a failure of the engine itself is given. -/
def VerdictError.message {ε : Type} (write : ε → String) : VerdictError ε → String
  | .matrix e => e.message
  | .options e => e.message
  | .undecided code message =>
    "scipy milp failed (status " ++ integerText code ++ "): " ++ message
  | .noPoint => "'NoneType' object has no attribute 'tolist'"
  | .engine e => write e

end Milp
