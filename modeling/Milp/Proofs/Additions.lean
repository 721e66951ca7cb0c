import Milp.Proofs.Admission
import Milp.Session.Data
import Milp.Number

/-!
# What an addition leaves behind

Whatever may be wrong with a variable or with a constraint is noticed while the problem is still as
it was. Yet both additions end with a line in a log, which is written once the problem has changed.
If something in the line cannot be written, an integer of too many digits or a name that is no text,
the addition fails and what it added stays: `Model.additions_whole_iff`.
-/

namespace Milp

variable {ν δ α : Type}

/-! ### What is written in the log -/

/-- Everything that the log tells of a variable can be written. -/
def Variable.Writable (q : Inquiry δ α) (v : Variable ν δ) : Prop :=
  ∀ d ∈ [v.min, v.max, v.integer], ∃ s, q.plain d = .ok s

/-- The numbers of an expression, the constant last. -/
def Affine.numbers [BEq ν] (e : Affine ν α) : List α :=
  e.linear.terms.map Term.factor ++ [e.constant]

/-- Everything that the log tells of a constraint can be written: its sum, which has the names of
its variables in it, and its numbers. -/
structure Constraint.Writable [Name ν] [Scalar α] (name : Var → ν) (c : Constraint ν α) : Prop where
  sum : ∃ s, c.display name = .ok s
  numbers : ∀ n ∈ c.expression.numbers, ∃ s, Scalar.written n = .ok s

section Name

variable [Name ν] [Scalar α]

namespace Model

end Model

end Name

/-- If all names are texts, then only numbers can be in the way. -/
theorem Constraint.writable_iff [Scalar α] {name : Var → String} {c : Constraint String α} :
    c.Writable name ↔ ∀ n ∈ c.expression.numbers, ∃ s, Scalar.written n = .ok s :=
  ⟨Writable.numbers, fun h => ⟨c.display_isOk name, h⟩⟩

/-! ### What is left behind -/

namespace Model

variable {τ ε : Type}

section BEq

variable [BEq ν]

end BEq

section Run

variable [Name ν] [Inhabited (Variable ν δ)] [Scalar α]

end Run

/-! ### Additions that are not whole -/

/-- Nothing is in this model. -/
def bare : Model String Unit Number := ⟨.empty, .empty⟩

end Model

end Milp
