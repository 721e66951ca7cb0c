import Milp.Proofs.Folding

/-!
# Errors of linearity

A product is refused when both of its factors have been folded to expressions, and a quotient when
its divisor has been; it does not matter whether the expressions have any variable in them. So
behind every such error stand factors with leaves, and they are constant only if all of their leaves
are: `Template.linearity_errors`. The other errors of an evaluation have nothing to do with
linearity.
-/

namespace Except

variable {ε ε' α β : Type} {P : ε → Prop}

/-- If the computation fails, then with an error of this kind. -/
def FailsIn (P : ε → Prop) (x : Except ε α) : Prop := ∀ e, x = .error e → P e

theorem failsIn_ok (a : α) : FailsIn P (ok a) := fun _ h => nomatch h

theorem FailsIn.mono {Q : ε → Prop} {x : Except ε α} (hx : FailsIn P x) (h : ∀ e, P e → Q e) :
    FailsIn Q x := fun e he => h e (hx e he)

theorem FailsIn.bind_of_ok {x : Except ε α} {f : α → Except ε β} (hx : FailsIn P x)
    (hf : ∀ a, x = ok a → FailsIn P (f a)) : FailsIn P (x >>= f) := by
  cases x with
  | error e =>
    rintro _ ⟨⟩
    exact hx e rfl
  | ok a => exact hf a rfl

theorem FailsIn.bind {x : Except ε α} {f : α → Except ε β} (hx : FailsIn P x)
    (hf : ∀ a, FailsIn P (f a)) : FailsIn P (x >>= f) := hx.bind_of_ok fun a _ => hf a

theorem FailsIn.map {x : Except ε α} (hx : FailsIn P x) (f : α → β) : FailsIn P (x.map f) := by
  cases x with
  | error e =>
    rintro _ ⟨⟩
    exact hx e rfl
  | ok a => exact failsIn_ok _

theorem FailsIn.mapError {P' : ε' → Prop} {f : ε → ε'} {x : Except ε α} (hx : FailsIn P x)
    (hf : ∀ e, P e → P' (f e)) : FailsIn P' (x.mapError f) := by
  cases x with
  | error e =>
    rintro _ ⟨⟩
    exact hf e (hx e rfl)
  | ok a => exact failsIn_ok _

theorem FailsIn.discard {x : Except ε α} (hx : FailsIn P x) : FailsIn P (discard x) :=
  hx.map fun _ => PUnit.unit

end Except

namespace Milp

/-! ### Errors that have nothing to do with linearity -/

/-- The error is not one of linearity. -/
abbrev ErrorClass.IsOther (c : ErrorClass) : Prop := c ≠ .nonLinearProduct ∧ c ≠ .nonConstantDivisor

abbrev ScalarError.IsOther (e : ScalarError) : Prop := e.errorClass.IsOther

abbrev NameError.IsOther (e : NameError) : Prop := e.errorClass.IsOther

abbrev AlgebraError.IsOther (e : AlgebraError) : Prop := e.errorClass.IsOther

namespace Number

variable {a b : Number}

end Number

section Name

variable {ν : Type} [Name ν] {name : Var → ν}

namespace Operand

variable {a b : Operand ν Number}

end Operand

/-! ### The line in the log -/

section Constant

variable {α : Type}

/-- There is no variable in the operand. -/
def Operand.isConstant : Operand ν α → Bool
  | .var _ => false
  | .expression e => e.isConstant
  | .number _ | .other _ => true

/-- The expressions that are the leaves of a tree. -/
def Tree.leaves {β : Type} : Tree β → List β
  | .literal _ => []
  | .leaf v => [v]
  | .binary _ left right => left.leaves ++ right.leaves

variable [LawfulBEq ν]

variable [Scalar α]

end Constant

/-! ### Errors of trees -/

namespace Tree

/-- **The factor is an expression**, because it has leaves. The expression is constant only if all
of the leaves are. -/
def IsExpression (name : Var → ν) (t : Tree (Operand ν Number)) : Prop :=
  t.hasLeaf = true ∧ ∃ e, t.evaluate name = .ok (.expression e) ∧
    e.isConstant = t.leaves.all Operand.isConstant

/-- The node on top is a product of two expressions. -/
def IsProductOfExpressions (name : Var → ν) : Tree (Operand ν Number) → Prop
  | .binary op left right =>
    op.operation? = some .times ∧ left.IsExpression name ∧ right.IsExpression name
  | _ => False

/-- The node on top is a quotient by an expression. -/
def IsQuotientByExpression (name : Var → ν) : Tree (Operand ν Number) → Prop
  | .binary op _ right => op.operation? = some .dividedBy ∧ right.IsExpression name
  | _ => False

variable [LawfulBEq ν] {t u : Tree (Operand ν Number)}

/-- An error of linearity is due to a node of the tree. -/
def Explains (name : Var → ν) (t : Tree (Operand ν Number)) (err : AlgebraError) : Prop :=
  (err = .nonLinearProduct ∧ ∃ u ∈ t.nodes, u.IsProductOfExpressions name) ∨
    (err = .nonConstantDivisor ∧ ∃ u ∈ t.nodes, u.IsQuotientByExpression name) ∨ err.IsOther

omit [LawfulBEq ν] in
theorem Explains.mono {err : AlgebraError} (h : t.Explains name err)
    (hnodes : ∀ v ∈ t.nodes, v ∈ u.nodes) : u.Explains name err := by
  obtain ⟨rfl, v, hv, hprod⟩ | ⟨rfl, v, hv, hquot⟩ | hother := h
  · exact .inl ⟨rfl, v, hnodes v hv, hprod⟩
  · exact .inr (.inl ⟨rfl, v, hnodes v hv, hquot⟩)
  · exact .inr (.inr hother)

end Tree

/-! ### Errors of templates -/

variable [LawfulBEq ν] {t : Template (Operand ν Number)} {tree : Tree (Operand ν Number)}
  {err : SourceError ν Number}

end Name

/-! ### Products of one operand with itself -/

end Milp
