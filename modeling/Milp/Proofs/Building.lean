import Milp.Proofs.Serialization
import Milp.Number

/-!
# What the algebra builds

All that the algebra does is `base + k * other`, from numbers and from variables. What is built in
this way files every term under the name of its variable, and it stays so while variables are made
and none is renamed. Reading a source builds nothing but this either: `Model.built_readConstraint`.

The numbers in it are doubles, with one exception: an expression without any variable may have an
integer as its constant, of whatever size; see `Affine.Built.measured`.
-/

namespace Milp

/-! ### Expressions that are built -/

section Built

variable {δ α : Type} [Scalar α] [Inhabited (Variable String δ)] {s s' : Store String δ}

/-- **What the algebra builds** from numbers and from variables of the store. -/
inductive Affine.Built (s : Store String δ) : Affine String α → Prop
  | number (n) : Built s (.ofNumber n)
  | var {x} : s.Has x → Built s (.ofVar s.name x)
  | addScaled {base other e k} : Built s base → Built s other →
      base.addScaled k other = .ok e → Built s e

/-- As for an expression; a variable has to be in the store. -/
def Operand.Built (s : Store String δ) : Operand String α → Prop
  | var x => s.Has x
  | expression e => e.Built s
  | number _ | other _ => True

namespace Affine.Built

variable {e : Affine String α}

/-- What is built stays so while the store grows. -/
theorem extends_store (h : e.Built s) (hs : s.Extends s') : e.Built s' := by
  induction h with
  | number n => exact .number n
  | @var x hx =>
    have he : (ofVar s.name x : Affine String α) = ofVar s'.name x := by
      rw [ofVar, ofVar, hs.name x hx]
    rw [he]
    exact .var (hs.has x hx)
  | addScaled _ _ hadd ihbase ihother => exact .addScaled ihbase ihother hadd

/-- Under a key there is a variable of the store with the key as its name. -/
theorem of_var? (h : e.Built s) {key : String} {x : Var} (hx : e.var? key = some x) :
    s.Has x ∧ s.name x = key := by
  induction h with
  | number n => simp [Affine.var?, Linear.var?, Linear.find?, ofNumber, Linear.empty] at hx
  | @var y hy =>
    have hlift : (Operand.var y : Operand String α).lift s.name = .ok (.ofVar s.name y) := rfl
    rw [Operand.var?_lift hlift, Operand.var?] at hx
    split at hx
    · next hkey =>
      obtain rfl := Option.some.inj hx
      exact ⟨hy, eq_of_beq hkey⟩
    · simp at hx
  | addScaled _ _ hadd ihbase ihother =>
    rw [var?_addScaled hadd] at hx
    obtain hx | ⟨-, hx⟩ := Option.or_eq_some_iff.1 hx
    · exact ihbase hx
    · exact ihother hx

theorem filed (h : e.Built s) : e.Filed s.name := filed_iff.2 fun _ _ hx => (h.of_var? hx).2

theorem has (h : e.Built s) {x : Var} (hx : x ∈ e.vars) : s.Has x := by
  obtain ⟨key, hx⟩ := mem_vars_iff.1 hx
  exact (h.of_var? hx).1

end Affine.Built

/-! ### Operands that are built -/

namespace Operand

variable {a b c o : Operand String α} {e : Affine String α}

theorem Built.lift (h : o.Built s) (he : o.lift s.name = .ok e) : e.Built s := by
  cases o with
  | number n =>
    obtain rfl := Except.ok.inj he
    exact .number n
  | var x =>
    obtain rfl := Except.ok.inj he
    exact .var h
  | expression e' =>
    obtain rfl := Except.ok.inj he
    exact h
  | other o => simp [Operand.lift] at he

theorem Built.addScaled {k : Operand String α} (ha : a.Built s) (hb : b.Built s)
    (h : Operand.addScaled s.name a k b = .ok e) : e.Built s := by
  unfold Operand.addScaled at h
  split at h
  · simp only [Except.bind_eq_ok_iff, Except.mapError_eq_ok_iff] at h
    obtain ⟨a', ha', b', hb', h⟩ := h
    exact .addScaled (ha.lift ha') (hb.lift hb') h
  · simp at h

theorem Built.divide {k : Operand String α} (ha : a.Built s)
    (h : Operand.divide s.name a k = .ok e) : e.Built s := by
  unfold Operand.divide at h
  split at h
  · obtain ⟨k, -, h⟩ := Except.bind_eq_ok_iff.1 h
    exact Built.addScaled (a := ofInt 0) trivial ha h
  · simp at h

/-- An operation builds something from what is built. -/
theorem Applies.built {op : Formula.Operation} (h : Applies s.name op a b c) (ha : a.Built s)
    (hb : b.Built s) : c.Built s := by
  cases h with
  | numbers _ => trivial
  | plus h | minus h => exact ha.addScaled hb h
  | scaledLeft h => exact Built.addScaled (a := ofInt 0) trivial hb h
  | scaledRight h => exact Built.addScaled (a := ofInt 0) trivial ha h
  | divided h => exact ha.divide h

end Operand

/-! ### Reading -/

namespace Formula

variable {f : Formula (Operand String α)}

/-- A tree yields what is built, if the operands of its formula are. -/
theorem Builds.built {t : Tree (Operand String α)} (h : f.Builds s.name t)
    (hf : ∀ o ∈ f.operands, o.Built s) {a : Operand String α} (ha : t.evaluate s.name = .ok a) :
    a.Built s := by
  induction h generalizing a with
  | numeral n | number n =>
    obtain rfl := Except.ok.inj ha
    trivial
  | lifted _ he =>
    obtain rfl := Except.ok.inj ha
    exact (hf _ (List.mem_singleton_self _)).lift he
  | binary _ _ ihf ihg =>
    rw [operands, List.forall_mem_append] at hf
    obtain ⟨b, c, hb, hc, h⟩ := evaluate_binary_eq_ok ha
    exact h.built (ihf hf.1 hb) (ihg hf.2 hc)

theorem Yields.built {o : Operand String α} (h : f.Yields s.name o)
    (hf : ∀ o ∈ f.operands, o.Built s) : o.Built s := by
  cases h with
  | operand o => exact hf o (List.mem_singleton_self o)
  | read hb ha he => exact (hb.built hf ha).lift he

end Formula

theorem Constraint.built_compare {left right : Operand String α} {sense : Sense}
    {c : Constraint String α} (h : compare s.name left sense right = .ok c) (hl : left.Built s)
    (hr : right.Built s) : c.expression.Built s := by
  obtain ⟨-, h⟩ := compare_eq_ok h
  split at h
  · exact hr.addScaled hl h
  · exact hl.addScaled hr h

/-- **A constraint that is read is built**, if it is read from what is built. -/
theorem Model.built_readConstraint {g : Given String α} {operands : List (Operand String α)}
    {c : Constraint String α} (h : readConstraint s.name g operands = .ok c)
    (ho : ∀ o ∈ g.passed operands, o.Built s) : c.expression.Built s := by
  obtain ⟨a, ha, hbuilt⟩ := exists_assertion_of_passed (P := Operand.Built s) (fun _ => trivial) h ho
  obtain ⟨hl, hr⟩ := List.forall_mem_append.1 hbuilt
  obtain rfl | ⟨l, r, hyl, hyr, hc⟩ := (readConstraint_eq_ok h).2 a ha
  · exact hl _ (List.mem_singleton_self _)
  · exact c.built_compare hc (hyl.built hl) (hyr.built hr)

end Built

/-! ### Numbers that are built -/

namespace Number

/-- The number fits a double: there is one nearest to it. -/
def Fits (n : Number) : Prop := ∃ x, n.toDouble = .ok x

/-- The number is a double itself. -/
def IsDouble : Number → Prop
  | double _ | cell _ => True
  | whole _ | truth _ | word _ => False

variable {a b c : Number}

theorem IsDouble.fits (h : a.IsDouble) : a.Fits := by
  cases a with
  | double x | cell x => exact ⟨x, rfl⟩
  | _ => exact h.elim

theorem IsDouble.integer?_eq (h : a.IsDouble) : a.integer? = none := by
  cases a with
  | double x | cell x => rfl
  | _ => exact h.elim

/-- A sum, a difference or a product with a double is a double. -/
theorem isDouble_combine {op : Operation} (h : combine op a b = .ok c)
    (hab : a.IsDouble ∨ b.IsDouble) : c.IsDouble := by
  have hdouble : ∃ z, c = if a.isElement || b.isElement then cell z else double z := by
    unfold combine at h
    split at h
    · next ha hb =>
      obtain hab | hab := hab
      · simp [hab.integer?_eq] at ha
      · simp [hab.integer?_eq] at hb
    · simp only [Except.bind_eq_ok_iff, Except.pure_eq_ok_iff] at h
      obtain ⟨x, -, y, -, rfl⟩ := h
      exact ⟨_, rfl⟩
  obtain ⟨z, rfl⟩ := hdouble
  split <;> trivial

end Number

section Numbers

variable {δ : Type} [Inhabited (Variable String δ)] {s : Store String δ}

namespace Linear

/-- All factors are doubles. -/
def OfDoubles (l : Linear String Number) : Prop := ∀ t ∈ l.terms, t.factor.IsDouble

theorem mem_of_mem_place {ν α : Type} [BEq ν] {t u : Term ν α} {us : List (Term ν α)}
    (h : u ∈ place t us) : u ∈ us ∨ u.factor = t.factor := by
  induction us with
  | nil =>
    obtain rfl := List.mem_singleton.1 h
    exact .inr rfl
  | cons v us ih =>
    rw [place] at h
    split at h
    · obtain rfl | h := List.mem_cons.1 h
      · exact .inr rfl
      · exact .inl (List.mem_cons_of_mem _ h)
    · obtain rfl | h := List.mem_cons.1 h
      · exact .inl List.mem_cons_self
      · exact (ih h).imp (List.mem_cons_of_mem _) id

variable {k : Number} {l l' : Linear String Number}

theorem OfDoubles.factor (h : l.OfDoubles) (key : String) : (l.factor key).IsDouble := by
  unfold Linear.factor
  split
  · next t ht => exact h t (of_find?_eq_some ht).1
  · exact trivial

/-- What is added to a double is one afterwards, and a missing factor counts as a double. -/
theorem OfDoubles.addTerm {t : Term String Number} (h : l.OfDoubles)
    (hadd : Linear.addTerm k l t = .ok l') : l'.OfDoubles := by
  obtain ⟨p, x, -, hx, rfl⟩ := addTerm_eq_ok hadd
  intro u hu
  obtain hu | hu := mem_of_mem_place hu
  · exact h u hu
  · rw [hu]
    exact Number.isDouble_combine hx (.inl (h.factor t.key))

theorem OfDoubles.foldlM {ts : List (Term String Number)} (h : l.OfDoubles)
    (hadd : ts.foldlM (Linear.addTerm k) l = .ok l') : l'.OfDoubles := by
  induction ts generalizing l with
  | nil =>
    obtain rfl := Except.ok.inj hadd
    exact h
  | cons t ts ih =>
    rw [List.foldlM_cons, Except.bind_eq_ok_iff] at hadd
    obtain ⟨l₁, h₁, hadd⟩ := hadd
    exact ih (h.addTerm h₁) hadd

end Linear

namespace Affine.Built

variable {e : Affine String Number}

/-- **The factors of what is built are doubles**, and so is the constant beside a term. -/
theorem ofDoubles (h : e.Built s) :
    e.linear.OfDoubles ∧ (e.linear.terms ≠ [] → e.constant.IsDouble) := by
  induction h with
  | number n => exact ⟨fun t ht => absurd ht List.not_mem_nil, fun h => absurd rfl h⟩
  | var _ =>
    refine ⟨fun t ht => ?_, fun _ => trivial⟩
    obtain rfl := List.mem_singleton.1 ht
    trivial
  | @addScaled base other e k _ _ hadd ihbase ihother =>
    simp only [Affine.addScaled, Except.bind_eq_ok_iff, Except.pure_eq_ok_iff] at hadd
    obtain ⟨l, hl, p, hp, c, hc, rfl⟩ := hadd
    refine ⟨ihbase.1.foldlM hl, fun hne => ?_⟩
    by_cases hother : other.linear.terms = []
    · rw [hother] at hl
      obtain rfl := Except.ok.inj hl
      exact Number.isDouble_combine hc (.inl (ihbase.2 hne))
    · exact Number.isDouble_combine hc (.inr (Number.isDouble_combine hp (.inr (ihother.2 hother))))

/-- So the numbers fit, if the constant does of an expression without variables. -/
theorem measured (h : e.Built s) (hc : e.vars = [] → e.constant.Fits) :
    (∀ t ∈ e.linear.terms, t.factor.Fits) ∧ e.constant.Fits := by
  refine ⟨fun t ht => (h.ofDoubles.1 t ht).fits, ?_⟩
  by_cases hterms : e.linear.terms = []
  · exact hc (congrArg (List.map Term.var) hterms)
  · exact (h.ofDoubles.2 hterms).fits

end Affine.Built

end Numbers

end Milp
