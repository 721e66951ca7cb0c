import Milp.Proofs.Equating
import Milp.Proofs.Mirroring

/-!
# Opposite values

To subtract a value is to add the opposite one. The opposite of an expression has the same terms in
the same order, with opposite factors. Over the rationals a product or a quotient has the opposite
value, term by term, if its first operand has, and it has no value for the same reason. So a sign
can be moved from the operator in front of a summand into the first factor of it.
-/

namespace Milp

open Grammar

variable {ν : Type} [BEq ν]

/-! ### Opposite expressions -/

def Term.negated (t : Term ν Rat) : Term ν Rat := { t with factor := -t.factor }

namespace Linear

variable (k : Rat) (l : Linear ν Rat) (t : Term ν Rat)

/-- The linear part with opposite factors. -/
def negated : Linear ν Rat :=
  ⟨l.terms.map Term.negated, by simpa [Function.comp_def, Term.negated] using l.distinct⟩

theorem find?_negated (key : ν) : l.negated.find? key = (l.find? key).map Term.negated := by
  simp only [find?, negated, List.find?_map]
  rfl

theorem factor_negated (key : ν) : l.negated.factor key = -l.factor key := by
  unfold factor
  rw [find?_negated]
  cases l.find? key with
  | none => exact neg_zero.symm
  | some u => rfl

theorem var?_negated (key : ν) : l.negated.var? key = l.var? key := by
  rw [var?, find?_negated, var?]
  cases l.find? key <;> rfl

theorem place_negated (us : List (Term ν Rat)) :
    place t.negated (us.map Term.negated) = (place t us).map Term.negated := by
  induction us with
  | nil => rfl
  | cons u us ih =>
    rw [List.map_cons, place, place, ih]
    show (if u.key == t.key then _ else _) = _
    split <;> rfl

theorem insert_negated : l.negated.insert t.negated = (l.insert t).negated := by
  rw [insert, insert, negated]
  congr 1
  exact place_negated t l.terms

/-- Adding the opposite of a term is subtracting the term. -/
theorem addTerm_term_negated : addTerm k l t.negated = addTerm (-k) l t := by
  rw [addTerm_eq, addTerm_eq]
  simp only [Term.negated, mul_neg, neg_mul]

theorem addTerm_negated : addTerm (-k) l.negated t = (addTerm k l t).map negated := by
  rw [addTerm_eq, addTerm_eq, Except.map, ← insert_negated, factor_negated, var?_negated]
  simp only [Term.negated]
  congr 3
  ring

theorem foldlM_negated (ts : List (Term ν Rat)) :
    ts.foldlM (addTerm (-k)) l.negated = (ts.foldlM (addTerm k) l).map negated := by
  induction ts generalizing l with
  | nil => rfl
  | cons t ts ih =>
    rw [List.foldlM_cons, List.foldlM_cons, addTerm_negated, addTerm_eq]
    exact ih _

end Linear

namespace Affine

variable (base other e : Affine ν Rat) (k : Rat)

/-- The expression with opposite numbers. -/
def negated : Affine ν Rat := ⟨e.linear.negated, -e.constant⟩

theorem addScaled_negated : base.addScaled k other.negated = base.addScaled (-k) other := by
  have hfold : (other.linear.terms.map Term.negated).foldlM (Linear.addTerm k) base.linear =
      other.linear.terms.foldlM (Linear.addTerm (-k)) base.linear := by
    rw [List.foldlM_map]
    congr 1
    funext l t
    exact l.addTerm_term_negated k t
  have hconstant : (Scalar.mul k (-other.constant) : Except ScalarError Rat) =
      Scalar.mul (-k) other.constant := by
    simp only [Scalar.mul, mul_neg, neg_mul]
  rw [addScaled, addScaled, negated, Linear.negated, hfold, hconstant]

theorem negated_addScaled : base.negated.addScaled (-k) other =
    (base.addScaled k other).map negated := by
  rw [addScaled, addScaled, negated, Linear.foldlM_negated]
  cases other.linear.terms.foldlM (Linear.addTerm k) base.linear with
  | error e => rfl
  | ok l =>
    have hconstant : -base.constant + -k * other.constant =
        -(base.constant + k * other.constant) := by ring
    exact congrArg (fun c => Except.ok (⟨l.negated, c⟩ : Affine ν Rat)) hconstant

end Affine

/-! ### Opposite operands -/

namespace Operand

/-- **The values are opposite**: numbers, or expressions. -/
inductive Opposite : Operand ν Rat → Operand ν Rat → Prop
  | number (q : Rat) : Opposite (.number (-q)) (.number q)
  | expression (e : Affine ν Rat) : Opposite (.expression e.negated) (.expression e)

variable {name : Var → String} {a a' b c c' : Operand String Rat} {k : Rat}

theorem Opposite.exists_lift (h : Opposite c' c) :
    ∃ e, c.lift name = .ok e ∧ c'.lift name = .ok e.negated := by
  cases h with
  | number q => exact ⟨.ofNumber q, rfl, rfl⟩
  | expression e => exact ⟨e, rfl, rfl⟩

theorem Opposite.addScaled_eq (h : Opposite c' c) :
    addScaled name a (.number k) c' = addScaled name a (.number (-k)) c := by
  obtain ⟨e, he, he'⟩ : ∃ e, c.lift name = .ok e ∧ c'.lift name = .ok e.negated := h.exists_lift
  simp only [addScaled, he, he', Except.ok_bind, Affine.addScaled_negated]

/-- To add the opposite is to subtract. -/
theorem Opposite.add_eq (h : Opposite c' c) : add name a c' = sub name a c := by
  have hone : -(Scalar.ofInt 1 : Rat) = Scalar.ofInt (-1) := by simp [Scalar.ofInt]
  rw [add, ofInt, h.addScaled_eq, hone]
  rfl

theorem scale_neg : scale name (number (-k)) c =
    (scale name (number k) c).map Affine.negated := by
  -- The sum starts with zero, which is its own opposite.
  have hzero : (Affine.ofNumber (Scalar.ofInt 0) : Affine String Rat) =
      (Affine.ofNumber (Scalar.ofInt 0)).negated := by
    simp [Affine.ofNumber, Affine.negated, Scalar.ofInt, Linear.negated, Linear.empty]
  show (c.lift name >>= fun e => _) = Except.map _ (c.lift name >>= fun e => _)
  cases c.lift name with
  | error e => rfl
  | ok e =>
    show Except.mapError _ (Affine.addScaled (.ofNumber (Scalar.ofInt 0)) (-k) e) =
      Except.map _ (Except.mapError _ (Affine.addScaled (.ofNumber (Scalar.ofInt 0)) k e))
    rw [hzero, Affine.negated_addScaled, ← hzero]
    cases Affine.addScaled (.ofNumber (Scalar.ofInt 0)) k e <;> rfl

theorem Opposite.scale_eq (h : Opposite c' c) : scale name (.number k) c' =
    (scale name (.number k) c).map Affine.negated := by
  rw [← scale_neg]
  exact h.addScaled_eq

/-- Opposite results of the algebra as operands. -/
theorem alike_of_map {x x' : Except AlgebraError (Affine String Rat)}
    (h : x' = x.map Affine.negated) :
    Except.Alike Eq Opposite (x'.map expression) (x.map expression) := by
  rw [h]
  cases x with
  | error e => exact .error rfl
  | ok e => exact .ok (.expression e)

theorem Opposite.scale_alike (h : Opposite c' c) (name : Var → String) (k : Rat) :
    Except.Alike Eq Opposite ((scale name (.number k) c').map Operand.expression)
      ((scale name (.number k) c).map Operand.expression) := alike_of_map h.scale_eq

/-! ### Operations on opposite values -/

theorem Opposite.apply_plus (h : Opposite c' c) (a : Operand String Rat) :
    apply name "+" a c' = apply name "-" a c := by
  have hadd : (add name a c').map Operand.expression = (sub name a c).map Operand.expression := by
    rw [h.add_eq]
  cases h with
  | expression e => cases a <;> exact hadd
  | number q =>
    cases a with
    | number m =>
      show ofScalar (Scalar.add m (-q)) = ofScalar (Scalar.sub m q)
      simp only [Scalar.add, Scalar.sub, sub_eq_add_neg]
    | var _ | expression _ | other _ => exact hadd

theorem Opposite.apply_times (h : Opposite a' a) (b : Operand String Rat) :
    Except.Alike Eq Opposite (apply name "*" a' b) (apply name "*" a b) := by
  cases h with
  | expression e =>
    cases b with
    | number n => exact (Opposite.expression e).scale_alike name n
    | var _ | expression _ | other _ => exact .error rfl
  | number q =>
    have hfactor : Except.Alike Eq Opposite ((scale name (.number (-q)) b).map Operand.expression)
        ((scale name (.number q) b).map Operand.expression) := alike_of_map scale_neg
    cases b with
    | number n =>
      show Except.Alike Eq Opposite (.ok (.number (-q * n))) (.ok (.number (q * n)))
      rw [neg_mul]
      exact .ok (.number _)
    | var _ | expression _ | other _ => exact hfactor

theorem Opposite.apply_dividedBy (h : Opposite a' a) (b : Operand String Rat) :
    Except.Alike Eq Opposite (apply name "/" a' b) (apply name "/" a b) := by
  cases h with
  | expression e =>
    cases b with
    | number n => exact (Opposite.expression e).scale_alike name (1 / n)
    | var _ | expression _ | other _ => exact .error rfl
  | number q =>
    cases b with
    | number n =>
      show Except.Alike Eq Opposite (.ok (.number (-q / n))) (.ok (.number (q / n)))
      rw [neg_div]
      exact .ok (.number _)
    | var _ | expression _ | other _ => exact .error rfl

end Operand

/-! ### Opposite trees -/

namespace Tree

variable {name : Var → String}

/-- The trees have opposite values, or fail to have one for the same reason. -/
def Opposite (name : Var → String) (t t' : Tree (Operand String Rat)) : Prop :=
  Except.Alike Eq Operand.Opposite (t.evaluate name) (t'.evaluate name)

theorem multiplies_opposite (name : Var → String) :
    Tree.Multiplies (Tree.Agrees name) (Tree.Opposite name) := by
  intro op t t' u u' hop ht hu
  have hu : u.evaluate name = u'.evaluate name := hu
  refine ht.bind fun a a' ha => ?_
  show Except.Alike _ _ (u.evaluate name >>= _) (u'.evaluate name >>= _)
  rw [hu]
  cases u'.evaluate name with
  | error e => exact .error rfl
  | ok b =>
    have hsign : ∀ {sign}, op.sign = .ok sign → op.sign?.getD "" = sign := by
      intro sign h
      rw [Word.sign?, h]
      rfl
    show Except.Alike _ _ (Operand.apply name _ a b) (Operand.apply name _ a' b)
    rcases hop with hop | hop
    · rw [hsign hop]
      exact ha.apply_times b
    · rw [hsign hop]
      exact ha.apply_dividedBy b

/-- **A sign moves from the operator into its right operand.** -/
theorem exchanges_opposite (name : Var → String) :
    Tree.Exchanges (Tree.Agrees name) (Tree.Opposite name) (.text "+") (.text "-") := by
  intro t t' u u' ht hu
  have ht : t.evaluate name = t'.evaluate name := ht
  show (t.evaluate name >>= fun a => u.evaluate name >>= fun b => Operand.apply name "+" a b) =
    t'.evaluate name >>= fun a => u'.evaluate name >>= fun b => Operand.apply name "-" a b
  rw [ht]
  refine bind_congr fun a => ?_
  obtain ⟨b, b', hb, hb', h⟩ | ⟨e, e', he, he', h⟩ := hu.ok_or_error
  · rw [hb, hb']
    exact h.apply_plus a
  · rw [he, he', h]
    rfl

end Tree

end Milp
