import Milp.Proofs.Building

/-!
# What a tree folds to

A tree is folded from its leaves upwards, and whether a side is a number or an expression shows only
when it has been folded. It can be told beforehand: a side is an expression exactly if it has a leaf
that is one. Where all numbers are doubles nothing else matters, since no calculation with doubles
fails: `Tree.Floating.folds`.
-/

namespace Milp

/-! ### Nodes and their faults -/

/-- What is wrong with an operation, its left and its right side being expressions or not. -/
def Formula.Operation.fault? : Formula.Operation → Bool → Bool → Option AlgebraError
  | times, true, true => some .nonLinearProduct
  | dividedBy, _, true => some .nonConstantDivisor
  | _, _, _ => none

/-- The operation of a word. -/
def Word.operation? {β : Type} (w : Word β) : Option Formula.Operation :=
  match w.sign? with
  | some "+" => some .plus
  | some "-" => some .minus
  | some "*" => some .times
  | some "/" => some .dividedBy
  | _ => none

@[simp] theorem Formula.Operation.operation?_word {β : Type} (op : Formula.Operation) :
    (op.word : Word β).operation? = some op := by cases op <;> rfl

namespace Tree

variable {β : Type}

/-- Some leaf of the tree is an expression. -/
def hasLeaf : Tree β → Bool
  | .literal _ => false
  | .leaf _ => true
  | .binary _ left right => left.hasLeaf || right.hasLeaf

/-- All nodes: those of the left side, those of the right side and then the node itself. -/
def nodes : Tree β → List (Tree β)
  | .literal v => [.literal v]
  | .leaf v => [.leaf v]
  | .binary op left right => left.nodes ++ right.nodes ++ [.binary op left right]

/-- What is wrong with the node on top: it is a product with leaves on both sides, or a quotient
with a leaf in its divisor. -/
def fault? : Tree β → Option AlgebraError
  | .binary op left right => op.operation?.bind fun op => op.fault? left.hasLeaf right.hasLeaf
  | _ => none

/-- The node on top is a product that has leaves on both sides. -/
def MultipliesLeaves : Tree β → Prop
  | .binary op left right => op.operation? = some .times ∧ left.hasLeaf ∧ right.hasLeaf
  | _ => False

/-- The node on top is a quotient that has a leaf in its divisor. -/
def DividesByLeaf : Tree β → Prop
  | .binary op _ right => op.operation? = some .dividedBy ∧ right.hasLeaf
  | _ => False

theorem fault?_eq_some_iff {t : Tree β} {err : AlgebraError} : t.fault? = some err ↔
    err = .nonLinearProduct ∧ t.MultipliesLeaves ∨ err = .nonConstantDivisor ∧ t.DividesByLeaf := by
  cases t with
  | literal _ | leaf _ => simp [fault?, MultipliesLeaves, DividesByLeaf]
  | binary w t u =>
    simp only [fault?, MultipliesLeaves, DividesByLeaf]
    cases hw : w.operation? with
    | none => simp
    | some op =>
      cases op <;> cases t.hasLeaf <;> cases u.hasLeaf <;>
        simp [Formula.Operation.fault?, eq_comm]

theorem fault?_eq_none_iff {t : Tree β} :
    t.fault? = none ↔ ¬ t.MultipliesLeaves ∧ ¬ t.DividesByLeaf := by
  rw [Option.eq_none_iff_forall_ne_some]
  constructor
  · intro h
    exact ⟨fun ht => h _ (fault?_eq_some_iff.2 (.inl ⟨rfl, ht⟩)),
      fun ht => h _ (fault?_eq_some_iff.2 (.inr ⟨rfl, ht⟩))⟩
  · rintro ⟨hm, hd⟩ err h
    exact (fault?_eq_some_iff.1 h).elim (fun h => hm h.2) fun h => hd h.2

/-- What is wrong with the first node that something is wrong with. -/
def firstFault? (t : Tree β) : Option AlgebraError := t.nodes.findSome? fault?

theorem firstFault?_binary (op : Formula.Operation) (t u : Tree β) :
    (binary op.word t u).firstFault? =
      (t.firstFault?.or u.firstFault?).or (op.fault? t.hasLeaf u.hasLeaf) := by
  rw [firstFault?, nodes, List.findSome?_append, List.findSome?_append]
  simp [firstFault?, fault?]

end Tree

/-! ### Kinds of values -/

section Kind

variable {ν α : Type} [Name ν] [Scalar α] {name : Var → ν}

namespace Operand

variable {a b c : Operand ν α}

theorem apply_numbers (name : Var → ν) (op : Formula.Operation) (m n : α) :
    apply name (String.singleton op.char) (number m) (number n) = ofScalar (op.calculate m n) := by
  cases op <;> rfl

/-- An operation between two numbers makes a number, any other one an expression. -/
theorem apply_cases {op : Formula.Operation}
    (h : apply name (String.singleton op.char) a b = .ok c) :
    (a.isNumber = true ∧ b.isNumber = true ∧ ∃ n, c = number n) ∨
      ((a.isNumber && b.isNumber) = false ∧ ∃ e, c = expression e) := by
  cases hab : a.isNumber && b.isNumber with
  | true =>
    rw [Bool.and_eq_true] at hab
    cases a <;> cases b <;> simp_all [isNumber]
    rw [apply_numbers] at h
    obtain ⟨z, -, rfl⟩ := ofScalar_eq_ok h
    exact ⟨z, rfl⟩
  | false =>
    refine .inr ⟨rfl, ?_⟩
    cases applies_of_apply h with
    | numbers _ => cases hab
    | plus _ | minus _ | scaledLeft _ | scaledRight _ | divided _ => exact ⟨_, rfl⟩

end Operand

/-- **A regular tree**: its literals are numbers, its leaves are expressions, and its operations are
the four. -/
inductive Tree.Regular : Tree (Operand ν α) → Prop
  | literal (n : α) : Regular (.literal (.number n))
  | leaf (e : Affine ν α) : Regular (.leaf (.expression e))
  | binary (op : Formula.Operation) {t u} : Regular t → Regular u → Regular (.binary op.word t u)

theorem Formula.Builds.regular {f : Formula (Operand ν α)} {t : Tree (Operand ν α)}
    (h : f.Builds name t) : t.Regular := by
  induction h with
  | numeral n => exact .literal _
  | number x => exact .literal x
  | lifted _ _ => exact .leaf _
  | binary _ _ iht ihu => exact .binary _ iht ihu

theorem Tree.evaluate_binary (op : Formula.Operation) (t u : Tree (Operand ν α)) :
    (binary op.word t u).evaluate name = (do
      let a ← t.evaluate name
      let b ← u.evaluate name
      Operand.apply name (String.singleton op.char) a b) := rfl

/-- **The kind of a value** shows in the leaves of the tree. -/
theorem Tree.Regular.value_cases {t : Tree (Operand ν α)} (h : t.Regular) {a : Operand ν α}
    (ha : t.evaluate name = .ok a) :
    (t.hasLeaf = false ∧ ∃ n, a = .number n) ∨ t.hasLeaf = true ∧ ∃ e, a = .expression e := by
  induction h generalizing a with
  | literal n =>
    obtain rfl := Except.ok.inj ha
    exact .inl ⟨rfl, n, rfl⟩
  | leaf e =>
    obtain rfl := Except.ok.inj ha
    exact .inr ⟨rfl, e, rfl⟩
  | binary op _ _ iht ihu =>
    simp only [evaluate_binary, Except.bind_eq_ok_iff] at ha
    obtain ⟨b, hb, c, hc, ha⟩ := ha
    rw [hasLeaf]
    obtain ⟨hn, hm, n, rfl⟩ | ⟨hnm, e, rfl⟩ := Operand.apply_cases ha
    · obtain ⟨ht, -⟩ | ⟨-, e, rfl⟩ := iht hb
      · obtain ⟨hu, -⟩ | ⟨-, e, rfl⟩ := ihu hc
        · exact .inl ⟨by rw [ht, hu]; rfl, n, rfl⟩
        · cases hm
      · cases hn
    · refine .inr ⟨?_, e, rfl⟩
      obtain ⟨-, n, rfl⟩ | ⟨ht, -⟩ := iht hb
      · obtain ⟨-, m, rfl⟩ | ⟨hu, -⟩ := ihu hc
        · cases hnm
        · rw [hu, Bool.or_true]
      · rw [ht, Bool.true_or]

end Kind

/-! ### Calculations with doubles -/

namespace Number

variable {a b : Number}

/-- The coefficients of sums, differences and multiples fit. -/
theorem fits_coefficient {n : Int} (h : n = 0 ∨ n = 1 ∨ n = -1) : (whole n).Fits := by
  obtain rfl | rfl | rfl := h <;> exact ⟨_, rfl⟩

theorem combine_isOk (op : Operation) (ha : a.Fits) (hb : b.Fits) (hab : a.IsDouble ∨ b.IsDouble) :
    ∃ c, combine op a b = .ok c ∧ c.IsDouble := by
  obtain ⟨x, hx⟩ := ha
  obtain ⟨y, hy⟩ := hb
  have hsucceeds : ∃ c, combine op a b = .ok c := by
    unfold combine
    split
    · next hm hn =>
      obtain hab | hab := hab
      · simp [hab.integer?_eq] at hm
      · simp [hab.integer?_eq] at hn
    · rw [hx, hy]
      exact ⟨_, rfl⟩
  obtain ⟨c, hc⟩ := hsucceeds
  exact ⟨c, hc, isDouble_combine hc hab⟩

/-- **A calculation with a double succeeds** and has a double as its result; a division always has,
whatever the divisor is. -/
theorem calculate_isOk (op : Formula.Operation) (ha : a.Fits) (hb : b.Fits)
    (hab : a.IsDouble ∨ b.IsDouble) : ∃ c, op.calculate a b = .ok c ∧ c.IsDouble := by
  cases op with
  | plus | minus | times => exact combine_isOk _ ha hb hab
  | dividedBy =>
    obtain ⟨x, hx⟩ := ha
    obtain ⟨y, hy⟩ := hb
    refine ⟨.double (x / y), ?_, trivial⟩
    change Number.div a b = _
    rw [Number.div, hx, hy]
    rfl

end Number

/-! ### Expressions of doubles -/

namespace Linear.OfDoubles

variable {l : Linear String Number} {k : Number}

theorem addTerm_isOk {t : Term String Number} (hl : l.OfDoubles) (hk : k.Fits)
    (ht : t.factor.IsDouble) : ∃ l', Linear.addTerm k l t = .ok l' := by
  obtain ⟨p, hp, hpd⟩ := Number.calculate_isOk .times hk ht.fits (.inr ht)
  have hmul : Scalar.mul k t.factor = .ok p := hp
  have hsum : ∀ start : Number, start.IsDouble → ∃ x, Scalar.add start p = .ok x := by
    intro start hstart
    obtain ⟨x, hx, -⟩ := Number.calculate_isOk .plus hstart.fits hpd.fits (.inr hpd)
    exact ⟨x, hx⟩
  unfold Linear.addTerm
  cases hfind : l.find? t.key with
  | none =>
    obtain ⟨x, hx⟩ := hsum Scalar.zero trivial
    simp only [hmul, Except.ok_bind, hx]
    exact ⟨_, rfl⟩
  | some u =>
    obtain ⟨x, hx⟩ := hsum u.factor (hl u (of_find?_eq_some hfind).1)
    simp only [hmul, Except.ok_bind, hx]
    exact ⟨_, rfl⟩

theorem foldlM_isOk {ts : List (Term String Number)} (hl : l.OfDoubles) (hk : k.Fits)
    (hts : ∀ t ∈ ts, t.factor.IsDouble) : ∃ l', ts.foldlM (Linear.addTerm k) l = .ok l' := by
  induction ts generalizing l with
  | nil => exact ⟨l, rfl⟩
  | cons t ts ih =>
    obtain ⟨ht, hts⟩ := List.forall_mem_cons.1 hts
    obtain ⟨l₁, h₁⟩ := hl.addTerm_isOk hk ht
    obtain ⟨l', h'⟩ := ih (hl.addTerm h₁) hts
    refine ⟨l', ?_⟩
    rw [List.foldlM_cons, h₁]
    exact h'

end Linear.OfDoubles

/-- All numbers of the expression are doubles. -/
structure Affine.Floating (e : Affine String Number) : Prop where
  factors : e.linear.OfDoubles
  constant : e.constant.IsDouble

/-- Doubles can be added to the expression: its factors are doubles, and its constant can be made
one. -/
structure Affine.Open (e : Affine String Number) : Prop where
  factors : e.linear.OfDoubles
  constant : e.constant.Fits

theorem Affine.Floating.isOpen {e : Affine String Number} (h : e.Floating) : e.Open :=
  ⟨h.factors, h.constant.fits⟩

/-- **Expressions of doubles are added** with whatever coefficient fits. -/
theorem Affine.Floating.addScaled_isOk {base other : Affine String Number} {k : Number}
    (ho : other.Floating) (hb : base.Open) (hk : k.Fits) :
    ∃ e, base.addScaled k other = .ok e ∧ e.Floating := by
  obtain ⟨l, hl⟩ := hb.factors.foldlM_isOk hk ho.factors
  obtain ⟨p, hp, hpd⟩ := Number.calculate_isOk .times hk ho.constant.fits (.inr ho.constant)
  obtain ⟨c, hc, hcd⟩ := Number.calculate_isOk .plus hb.constant hpd.fits (.inr hpd)
  have hmul : Scalar.mul k other.constant = .ok p := hp
  have hadd : Scalar.add base.constant p = .ok c := hc
  refine ⟨⟨l, c⟩, ?_, hb.factors.foldlM hl, hcd⟩
  simp only [Affine.addScaled, hl, hmul, hadd, Except.ok_bind]
  rfl

namespace Operand

variable {name : Var → String} {a b : Operand String Number}

/-- The operand is a double or an expression of doubles. -/
def Floating : Operand String Number → Prop
  | number n => n.IsDouble
  | expression e => e.Floating
  | var _ | other _ => False

theorem Floating.lift (h : a.Floating) (name : Var → String) :
    ∃ e, a.lift name = .ok e ∧ e.Floating := by
  cases a with
  | number n => exact ⟨.ofNumber n, rfl, fun _ ht => absurd ht List.not_mem_nil, h⟩
  | expression e => exact ⟨e, rfl, h⟩
  | var _ | other _ => exact h.elim

theorem addScaled_isOk {k : Number} {base : Affine String Number}
    (ha : a.lift name = .ok base) (hbase : base.Open) (hb : b.Floating) (hk : k.Fits) :
    ∃ e, addScaled name a (number k) b = .ok e ∧ e.Floating := by
  obtain ⟨other, hother, ho⟩ := hb.lift name
  obtain ⟨e, he, hf⟩ := ho.addScaled_isOk hbase hk
  refine ⟨e, ?_, hf⟩
  simp only [addScaled, ha, hother, he, Except.ok_bind, Except.mapError_ok]

theorem scale_isOk (name : Var → String) {k : Number} (ha : a.Floating) (hk : k.Fits) :
    ∃ e, scale name (number k) a = .ok e ∧ e.Floating :=
  addScaled_isOk (a := ofInt 0) rfl
    ⟨fun _ ht => absurd ht List.not_mem_nil, Number.fits_coefficient (.inl rfl)⟩ ha hk

theorem divide_isOk (name : Var → String) {k : Number} (ha : a.Floating) (hk : k.IsDouble) :
    ∃ e, divide name a (number k) = .ok e ∧ e.Floating := by
  have hone : (Scalar.one : Number).IsDouble := trivial
  obtain ⟨r, hr, hd⟩ := Number.calculate_isOk .dividedBy hone.fits hk.fits (.inr hk)
  obtain ⟨e, he, hf⟩ := scale_isOk name ha hd.fits
  have hdiv : Scalar.div Scalar.one k = .ok r := hr
  refine ⟨e, ?_, hf⟩
  rw [divide, hdiv]
  exact he

/-- Adding and subtracting are one thing but for the sign of the coefficient. -/
theorem addMultiple_isOk (name : Var → String) {n : Int} (ha : a.Floating) (hb : b.Floating)
    (hn : n = 1 ∨ n = -1) :
    ∃ e, addScaled name a (ofInt n) b = .ok e ∧ e.Floating := by
  obtain ⟨base, hbase, hf⟩ := ha.lift name
  exact addScaled_isOk hbase hf.isOpen hb (Number.fits_coefficient (.inr hn))

/-- The result is there and made of doubles. -/
def HasResult (r : Except AlgebraError (Operand String Number)) : Prop :=
  ∃ c, r = .ok c ∧ c.Floating

theorem hasResult_expression {r : Except AlgebraError (Affine String Number)}
    (h : ∃ e, r = .ok e ∧ e.Floating) : HasResult (r.map expression) := by
  obtain ⟨e, rfl, hf⟩ := h
  exact ⟨expression e, rfl, hf⟩

theorem hasResult_number {r : Except ScalarError Number} (h : ∃ n, r = .ok n ∧ n.IsDouble) :
    HasResult (ofScalar r) := by
  obtain ⟨n, rfl, hd⟩ := h
  exact ⟨number n, rfl, hd⟩

/-- **An operation between doubles and expressions of doubles** has a result unless something is
wrong with its sides. -/
theorem apply_floating (name : Var → String) (op : Formula.Operation) (ha : a.Floating)
    (hb : b.Floating) :
    match op.fault? (!a.isNumber) (!b.isNumber) with
    | some err => apply name (String.singleton op.char) a b = .error err
    | none => HasResult (apply name (String.singleton op.char) a b) := by
  have hsum := hasResult_expression (addMultiple_isOk name ha hb (.inl rfl))
  have hdifference := hasResult_expression (addMultiple_isOk name ha hb (.inr rfl))
  cases a with
  | var _ | other _ => exact ha.elim
  | number m =>
    cases b with
    | var _ | other _ => exact hb.elim
    | number n =>
      have h := hasResult_number (Number.calculate_isOk op ha.fits hb.fits (.inl ha))
      rw [← apply_numbers name] at h
      cases op <;> exact h
    | expression f =>
      cases op with
      | plus => exact hsum
      | minus => exact hdifference
      | times => exact hasResult_expression (scale_isOk name hb ha.fits)
      | dividedBy => rfl
  | expression e =>
    cases b with
    | var _ | other _ => exact hb.elim
    | number n =>
      cases op with
      | plus => exact hsum
      | minus => exact hdifference
      | times => exact hasResult_expression (scale_isOk name ha hb.fits)
      | dividedBy => exact hasResult_expression (divide_isOk name ha hb)
    | expression f =>
      cases op with
      | plus => exact hsum
      | minus => exact hdifference
      | times => rfl
      | dividedBy => rfl

end Operand

/-! ### Trees of doubles -/

/-- **A tree of doubles**: its literals are doubles, its leaves are expressions of doubles, and its
operations are the four. -/
inductive Tree.Floating : Tree (Operand String Number) → Prop
  | literal {n : Number} : n.IsDouble → Floating (.literal (.number n))
  | leaf {e : Affine String Number} : e.Floating → Floating (.leaf (.expression e))
  | binary (op : Formula.Operation) {t u} : Floating t → Floating u → Floating (.binary op.word t u)

namespace Tree

variable {t : Tree (Operand String Number)} {name : Var → String}

theorem Floating.regular (h : t.Floating) : t.Regular := by
  induction h with
  | literal _ => exact .literal _
  | leaf _ => exact .leaf _
  | binary op _ _ iht ihu => exact .binary op iht ihu

theorem Regular.isNumber_eq (h : t.Regular) {a : Operand String Number}
    (ha : t.evaluate name = .ok a) : (!a.isNumber) = t.hasLeaf := by
  obtain ⟨hleaf, n, rfl⟩ | ⟨hleaf, e, rfl⟩ := h.value_cases ha <;> rw [hleaf] <;> rfl

/-- The value is a number where there is a value but no leaf. -/
theorem Regular.exists_number_iff (h : t.Regular) : (∃ n, t.evaluate name = .ok (.number n)) ↔
    t.hasLeaf = false ∧ ∃ a, t.evaluate name = .ok a := by
  constructor
  · rintro ⟨n, hn⟩
    obtain ⟨hleaf, -⟩ | ⟨-, e, he⟩ := h.value_cases hn
    · exact ⟨hleaf, _, hn⟩
    · cases he
  · rintro ⟨hleaf, a, ha⟩
    obtain ⟨-, n, rfl⟩ | ⟨hleaf', -⟩ := h.value_cases ha
    · exact ⟨n, ha⟩
    · cases hleaf.symm.trans hleaf'

/-- The value is an expression where there is a value and a leaf. -/
theorem Regular.exists_expression_iff (h : t.Regular) :
    (∃ e, t.evaluate name = .ok (.expression e)) ↔
      t.hasLeaf = true ∧ ∃ a, t.evaluate name = .ok a := by
  constructor
  · rintro ⟨e, he⟩
    obtain ⟨-, n, hn⟩ | ⟨hleaf, -⟩ := h.value_cases he
    · cases hn
    · exact ⟨hleaf, _, he⟩
  · rintro ⟨hleaf, a, ha⟩
    obtain ⟨hleaf', -⟩ | ⟨-, e, rfl⟩ := h.value_cases ha
    · cases hleaf.symm.trans hleaf'
    · exact ⟨e, ha⟩

/-- **A tree of doubles** fails with the first fault of its nodes, or else it has a value. -/
theorem Floating.evaluate_cases (h : t.Floating) (name : Var → String) :
    match t.firstFault? with
    | some err => t.evaluate name = .error err
    | none => Operand.HasResult (t.evaluate name) := by
  induction h with
  | literal hn => exact ⟨_, rfl, hn⟩
  | leaf he => exact ⟨_, rfl, he⟩
  | @binary op t u hft hfu iht ihu =>
    rw [firstFault?_binary, evaluate_binary]
    cases ht : t.firstFault? with
    | some err =>
      rw [ht] at iht
      simp only [Option.some_or]
      rw [iht]
      rfl
    | none =>
      rw [ht] at iht
      obtain ⟨a, ha, hfa⟩ := iht
      rw [ha, Except.ok_bind, Option.none_or]
      cases hu : u.firstFault? with
      | some err =>
        rw [hu] at ihu
        simp only [Option.some_or]
        rw [ihu]
        rfl
      | none =>
        rw [hu] at ihu
        obtain ⟨b, hb, hfb⟩ := ihu
        rw [hb, Except.ok_bind, Option.none_or, ← hft.regular.isNumber_eq ha,
          ← hfu.regular.isNumber_eq hb]
        exact Operand.apply_floating name op hfa hfb

theorem Floating.evaluate_eq_error_iff (h : t.Floating) {err : AlgebraError} :
    t.evaluate name = .error err ↔ t.firstFault? = some err := by
  have hcases := h.evaluate_cases name
  cases hfault : t.firstFault? with
  | some err' =>
    rw [hfault] at hcases
    dsimp only at hcases
    rw [hcases, Except.error.injEq, Option.some.injEq]
  | none =>
    rw [hfault] at hcases
    obtain ⟨a, ha, -⟩ := hcases
    simp [ha]

/-- **Which trees have a value.** A tree of doubles fails exactly if something is wrong with one of
its nodes, with the error of the first one, the sides of a node coming before it. It has a number as
its value exactly if it has a value and no leaf, and an expression if it has a value and a leaf. -/
theorem Floating.folds (h : t.Floating) (name : Var → String) :
    (∀ err, t.evaluate name = .error err ↔ ∃ before u after, t.nodes = before ++ u :: after ∧
      (∀ v ∈ before, ¬ v.MultipliesLeaves ∧ ¬ v.DividesByLeaf) ∧
      (err = .nonLinearProduct ∧ u.MultipliesLeaves ∨
        err = .nonConstantDivisor ∧ u.DividesByLeaf)) ∧
    ((∃ err, t.evaluate name = .error err) ↔
      ∃ u ∈ t.nodes, u.MultipliesLeaves ∨ u.DividesByLeaf) ∧
    ((∃ n, t.evaluate name = .ok (.number n)) ↔
      t.hasLeaf = false ∧ ∃ a, t.evaluate name = .ok a) ∧
    ((∃ e, t.evaluate name = .ok (.expression e)) ↔
      t.hasLeaf = true ∧ ∃ a, t.evaluate name = .ok a) := by
  refine ⟨fun err => ?_, ?_, h.regular.exists_number_iff, h.regular.exists_expression_iff⟩
  · rw [h.evaluate_eq_error_iff, firstFault?, List.findSome?_eq_some_iff]
    simp only [fault?_eq_some_iff, fault?_eq_none_iff]
    exact exists_congr fun _ => exists_congr fun _ => exists_congr fun _ =>
      and_congr_right fun _ => and_comm
  · simp only [h.evaluate_eq_error_iff]
    rw [← Option.isSome_iff_exists, firstFault?, List.findSome?_isSome_iff]
    refine exists_congr fun u => and_congr_right fun _ => ?_
    rw [Option.isSome_iff_ne_none, ne_eq, fault?_eq_none_iff, ← not_or, not_not]

/-- The variable of the index 0 alone, with a double as its factor. -/
def aLeaf : Tree (Operand String Number) := .leaf (.expression (.ofVar (fun _ => "a") ⟨0⟩))

theorem floating_aLeaf : aLeaf.Floating :=
  .leaf ⟨fun t ht => by obtain rfl := List.mem_singleton.1 ht; trivial, trivial⟩

/-- The tree of `(a / a) * a`. -/
def twoFaults : Tree (Operand String Number) :=
  .binary Formula.Operation.times.word (.binary Formula.Operation.dividedBy.word aLeaf aLeaf) aLeaf

/-- In `(a / a) * a` the quotient comes before the product. -/
theorem folds_twoFaults : twoFaults.Floating ∧
    twoFaults.evaluate (fun _ => "a") = .error .nonConstantDivisor := by
  have hquotient := Floating.binary .dividedBy floating_aLeaf floating_aLeaf
  have htree : twoFaults.Floating := .binary .times hquotient floating_aLeaf
  refine ⟨htree, ((htree.folds fun _ => "a").1 _).2
    ⟨[aLeaf, aLeaf], _, _, rfl, ?_, .inr ⟨rfl, rfl, rfl⟩⟩⟩
  simp [aLeaf, MultipliesLeaves, DividesByLeaf]

end Tree

end Milp
