import Milp.Proofs.Merging
import Milp.Problem

/-!
# What is stated by what is given

A constraint is given to a problem as a source, as two sides with the text of a comparator between
them, or as a constraint that has been built before. Each of these states an assertion, and reading
it compares what the two sides of the assertion yield: `readConstraint_eq_ok`.
-/

namespace Milp

variable {ν α : Type} [Name ν] [Scalar α] {name : Var → ν}

/-! ### What a formula yields -/

/-- A formula yields the operand that it consists of, or the expression as which its tree is
lifted. -/
inductive Formula.Yields (name : Var → ν) : Formula (Operand ν α) → Operand ν α → Prop
  | operand (o) : Yields name (.operand o) o
  | read {f t a e} : f.Builds name t → t.evaluate name = .ok a → a.lift name = .ok e →
      Yields name f (.expression e)

theorem Formula.Yields.var?_eq [LawfulBEq ν] {f : Formula (Operand ν α)} {o : Operand ν α}
    (h : f.Yields name o) (key : ν) : o.var? name key = f.var? name key := by
  cases h with
  | operand o => rfl
  | read hb ha he => exact (Operand.var?_lift he key).trans (hb.var?_eq ha key)

/-! ### Assertions -/

namespace Assertion

/-- The operands of both sides. -/
def operands {ω : Type} (a : Assertion ω) : List ω := a.left.operands ++ a.right.operands

/-- The first variable that is mentioned under a name, from the side that is not subtracted to the
one that is. -/
def var? (name : Var → ν) (a : Assertion (Operand ν α)) (key : ν) : Option Var :=
  if a.sense = .ge then (a.right.var? name key).or (a.left.var? name key)
  else (a.left.var? name key).or (a.right.var? name key)

end Assertion

omit [Scalar α] in
/-- What an assertion mentions one of its operands does. -/
theorem Assertion.exists_operand_of_var? {a : Assertion (Operand ν α)} {key : ν} {x : Var}
    (hx : a.var? name key = some x) : ∃ o ∈ a.operands, o.var? name key = some x := by
  have hside : a.left.var? name key = some x ∨ a.right.var? name key = some x := by
    unfold var? at hx
    split at hx
    · exact (Option.or_eq_some_iff.1 hx).symm.imp And.right id
    · exact (Option.or_eq_some_iff.1 hx).imp id And.right
  obtain hx | hx := hside
  · obtain ⟨o, ho, hx⟩ := Formula.exists_operand_of_var? hx
    exact ⟨o, List.mem_append_left _ ho, hx⟩
  · obtain ⟨o, ho, hx⟩ := Formula.exists_operand_of_var? hx
    exact ⟨o, List.mem_append_right _ ho, hx⟩

/-- What a constraint says in its normal form. -/
def Constraint.assertion (c : Constraint ν α) : Assertion (Operand ν α) :=
  ⟨.operand (.expression c.expression), if c.isEquality then .eq else .le,
    .operand (.number Scalar.zero)⟩

/-- **What is stated** by what a problem is given as a constraint. Of one that has been built from
two sides these are what it states; as an object of its own it states its normal form. -/
inductive Given.States (name : Var → ν) :
    Given ν α → List (Operand ν α) → Assertion (Operand ν α) → Prop
  | source {s operands t a} : s.toTemplate operands = .ok t → t.Asserts a →
      States name (.source s) operands a
  | triple {left sense text s right} : Model.textOf? sense = some text →
      Sense.ofText? text = some s →
      States name (.operand left) [sense, right] ⟨.operand left, s, .operand right⟩
  | built {c left s right} : Constraint.compare name left s right = .ok c →
      States name (.constraint c) [] ⟨.operand left, s, .operand right⟩
  | normal (c) : States name (.constraint c) [] c.assertion

/-- What is stated by what is given as an objective. -/
inductive Given.Says : Given ν α → List (Operand ν α) → Formula (Operand ν α) → Prop
  | source {s operands t f} : s.toTemplate operands = .ok t → t.Says f →
      Says (.source s) operands f
  | operand (o) : Says (.operand o) [] (.operand o)

/-! ### Reading -/

theorem Sense.ofText?_text (s : Sense) : Sense.ofText? s.text = some s := by cases s <;> rfl

/-- Nothing can be compared with what is no operand. -/
theorem Constraint.compare_other_ne_ok {o : Outsider} {s : Sense} {right : Operand ν α}
    (c : Constraint ν α) : compare name (.other o) s right ≠ .ok c := by
  cases s <;> simp [compare, Operand.sub, Operand.addScaled, Operand.ofInt, Operand.lift]

theorem Constraint.compare_eq_ok {left right : Operand ν α} {s : Sense} {c : Constraint ν α}
    (h : compare name left s right = .ok c) : c.isEquality = (s == .eq) ∧
      (if s = .ge then Operand.sub name right left else Operand.sub name left right) =
        .ok c.expression := by
  cases s <;>
  · obtain ⟨e, he, h⟩ := Except.bind_eq_ok_iff.1 h
    obtain rfl := Except.ok.inj h
    exact ⟨rfl, he⟩

theorem Model.compareText_eq_ok {left right : Operand ν α} {text : String} {c : Constraint ν α}
    (h : compareText name left text right = .ok c) :
    ∃ s, Sense.ofText? text = some s ∧ Constraint.compare name left s right = .ok c := by
  unfold compareText at h
  split at h
  · next s hs => exact ⟨s, hs, Except.mapError_eq_ok_iff.1 h⟩
  · simp at h

theorem Template.evaluate_eq_ok {t : Template (Operand ν α)} {e : Affine ν α}
    (h : t.evaluate name = .ok e) : ∃ tree a, Tree.ofFeed (t.tokens name .expression) = .ok tree ∧
      tree.evaluate name = .ok a ∧ a.lift name = .ok e := by
  simp only [evaluate, Tree.toAffine, Except.bind_eq_ok_iff, Except.mapError_eq_ok_iff,
    Except.pure_eq_ok_iff] at h
  obtain ⟨tree, ht, e', ⟨a, ha, he⟩, -, -, rfl⟩ := h
  exact ⟨tree, a, ht, ha, he⟩

theorem Template.evaluateConstraint_eq_ok {t : Template (Operand ν α)} {l r : Affine ν α}
    {text : String} (h : t.evaluateConstraint name = .ok (l, text, r)) :
    (∃ a, t.Asserts a) ∧ ∀ a, t.Asserts a → text = a.sense.text ∧
      a.left.Yields name (.expression l) ∧ a.right.Yields name (.expression r) := by
  simp only [evaluateConstraint, Tree.toAffine, Except.bind_eq_ok_iff,
    Except.mapError_eq_ok_iff, Except.pure_eq_ok_iff, Prod.mk.injEq] at h
  obtain ⟨c, hc, l', ⟨x, hx, hl⟩, r', ⟨y, hy, hr⟩, rfl, rfl, rfl⟩ := h
  obtain ⟨ha, hbuilds⟩ := compares hc
  refine ⟨ha, fun a has => ?_⟩
  obtain ⟨hbl, hbr, hs⟩ := hbuilds a has
  refine ⟨?_, .read hbl hx hl, .read hbr hy hr⟩
  rw [hs]
  rfl

/-- **A constraint that is read** is the comparison of what the sides of every stated assertion
yield, or it stood for itself; and something is stated. -/
theorem Model.readConstraint_eq_ok {g : Given ν α} {operands : List (Operand ν α)}
    {c : Constraint ν α} (h : readConstraint name g operands = .ok c) :
    (∃ a, g.States name operands a) ∧ ∀ a, g.States name operands a →
      a = c.assertion ∨ ∃ l r, a.left.Yields name l ∧ a.right.Yields name r ∧
        Constraint.compare name l a.sense r = .ok c := by
  unfold readConstraint at h
  split at h
  · next c' =>
    obtain rfl := Except.ok.inj h
    refine ⟨⟨_, .normal _⟩, fun a ha => ?_⟩
    cases ha with
    | built hc => exact .inr ⟨_, _, .operand _, .operand _, hc⟩
    | normal => exact .inl rfl
  · next s operands =>
    simp only [Except.bind_eq_ok_iff, Except.mapError_eq_ok_iff] at h
    obtain ⟨t, ht, ⟨l, text, r⟩, he, h⟩ := h
    obtain ⟨⟨a, ha⟩, hall⟩ := Template.evaluateConstraint_eq_ok he
    refine ⟨⟨a, .source ht ha⟩, fun a ha => ?_⟩
    cases ha with
    | source ht' ha =>
      obtain rfl := Except.ok.inj (ht.symm.trans ht')
      obtain ⟨rfl, hl, hr⟩ := hall a ha
      obtain ⟨s, hs, hc⟩ := compareText_eq_ok h
      rw [Sense.ofText?_text] at hs
      obtain rfl := Option.some.inj hs
      exact .inr ⟨_, _, hl, hr, hc⟩
  · next g operands sense right _ hg =>
    split at h
    · next text htext =>
      obtain ⟨s, hs, hc⟩ := compareText_eq_ok h
      cases g with
      | source s => exact absurd rfl (hg s)
      | constraint c' => exact absurd hc (Constraint.compare_other_ne_ok _)
      | operand left =>
        refine ⟨⟨_, .triple htext hs⟩, fun a ha => ?_⟩
        cases ha with
        | triple htext' hs' =>
          obtain rfl := Option.some.inj (htext.symm.trans htext')
          obtain rfl := Option.some.inj (hs.symm.trans hs')
          exact .inr ⟨_, _, .operand _, .operand _, hc⟩
    · simp at h
  · simp at h

/-! ### What is mentioned -/

theorem Constraint.var?_compare [LawfulBEq ν] {left right : Operand ν α} {s : Sense}
    {c : Constraint ν α} (h : compare name left s right = .ok c) (key : ν) :
    c.expression.var? key =
      if s = .ge then (right.var? name key).or (left.var? name key)
      else (left.var? name key).or (right.var? name key) := by
  obtain ⟨-, h⟩ := compare_eq_ok h
  split at h
  · next hs => rw [if_pos hs, Operand.var?_addScaled h]
  · next hs => rw [if_neg hs, Operand.var?_addScaled h]

/-- **What a constraint mentions** under a name is what is mentioned there first in anything that it
states. -/
theorem Model.var?_readConstraint [LawfulBEq ν] {g : Given ν α} {operands : List (Operand ν α)}
    {c : Constraint ν α} (h : readConstraint name g operands = .ok c)
    {a : Assertion (Operand ν α)} (ha : g.States name operands a) (key : ν) :
    c.expression.var? key = a.var? name key := by
  obtain rfl | ⟨l, r, hl, hr, hc⟩ := (readConstraint_eq_ok h).2 a ha
  · unfold Assertion.var? Constraint.assertion
    cases c.isEquality <;> exact (Option.or_none ..).symm
  · rw [Constraint.var?_compare hc, Assertion.var?, hl.var?_eq, hr.var?_eq]

/-- A variable that a constraint mentions is mentioned by an operand of what is stated. -/
theorem Model.exists_operand_of_readConstraint [LawfulBEq ν] {g : Given ν α}
    {operands : List (Operand ν α)} {c : Constraint ν α}
    (h : readConstraint name g operands = .ok c) {a : Assertion (Operand ν α)}
    (ha : g.States name operands a) {key : ν} {x : Var} (hx : c.expression.var? key = some x) :
    ∃ o ∈ a.operands, o.var? name key = some x := by
  rw [var?_readConstraint h ha] at hx
  exact Assertion.exists_operand_of_var? hx

/-- **What an objective mentions** under a name is what is mentioned there first in anything that it
says; and it says something. -/
theorem Given.evaluate_eq_ok [LawfulBEq ν] {g : Given ν α} {operands : List (Operand ν α)}
    {refusal : SourceError ν α} {e : Affine ν α} (h : g.evaluate name refusal operands = .ok e) :
    (∃ f, g.Says operands f) ∧
      ∀ f, g.Says operands f → ∀ key, e.var? key = f.var? name key := by
  unfold evaluate at h
  split at h
  · next s =>
    obtain ⟨t, ht, h⟩ := Except.bind_eq_ok_iff.1 h
    have ht := Except.mapError_eq_ok_iff.1 ht
    obtain ⟨tree, a, htree, ha, he⟩ := Template.evaluate_eq_ok h
    obtain ⟨⟨f, hf⟩, hbuilds⟩ := Template.builds htree
    refine ⟨⟨f, .source ht hf⟩, fun f hf key => ?_⟩
    cases hf with
    | source ht' hf =>
      obtain rfl := Except.ok.inj (ht.symm.trans ht')
      rw [← (hbuilds f hf).var?_eq ha]
      exact Operand.var?_lift he key
  · next hg =>
    split at h
    · next hempty =>
      obtain rfl := List.isEmpty_iff.1 hempty
      have he := Except.mapError_eq_ok_iff.1 h
      cases g with
      | source s => exact absurd rfl (hg s)
      | constraint c => simp [toOperand, Operand.lift] at he
      | operand o =>
        refine ⟨⟨_, .operand o⟩, fun f hf key => ?_⟩
        cases hf
        exact Operand.var?_lift he key
    · simp at h

end Milp
