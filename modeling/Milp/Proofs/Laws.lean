import Milp.Proofs.Equating
import Milp.Proofs.Mentions

/-!
# Laws of the algebra

Over the rationals the combinators obey the laws of ordinary arithmetic, up to equality. The two
sides of a law need not be the same expression: they list their terms in different orders, and what
cancels leaves a term with the factor zero behind. But equal expressions are those with equal
values, so a law holds as soon as it holds of values: an operation on operands that denote `p` and
`q` denotes what the operation makes of `p` and `q`, and what is left is a law of numbers.
-/

namespace Milp

variable {name : Var → String} {a a' b b' c : Operand String Rat} {e f : Affine String Rat}
  {x y z : Except AlgebraError (Affine String Rat)} {p q : (String → Rat) → Rat} {j k : Rat}

/-! ### Equal results -/

/-- The two results are there and equal. -/
def Agree (x y : Except AlgebraError (Affine String Rat)) : Prop :=
  ∃ e f, x = .ok e ∧ y = .ok f ∧ e.same f = .ok true

/-- The result is there and has the values of `p`. -/
def Denotes (x : Except AlgebraError (Affine String Rat)) (p : (String → Rat) → Rat) : Prop :=
  ∃ e, x = .ok e ∧ ∀ v, e.keyed v = p v

theorem agree_iff : Agree x y ↔ ∃ p, Denotes x p ∧ Denotes y p := by
  constructor
  · rintro ⟨e, f, rfl, rfl, h⟩
    exact ⟨fun v => f.keyed v, ⟨e, rfl, Affine.same_iff_keyed.1 h⟩, f, rfl, fun _ => rfl⟩
  · rintro ⟨p, ⟨e, rfl, he⟩, f, rfl, hf⟩
    refine ⟨e, f, rfl, rfl, Affine.same_iff_keyed.2 fun v => ?_⟩
    rw [he, hf]

/-- Results with the same values are equal. -/
theorem Denotes.agree (hx : Denotes x p) (hy : Denotes y q) (h : ∀ v, p v = q v) : Agree x y := by
  obtain rfl : p = q := funext h
  exact agree_iff.2 ⟨p, hx, hy⟩

theorem Agree.symm (h : Agree x y) : Agree y x := by
  obtain ⟨p, hx, hy⟩ := agree_iff.1 h
  exact agree_iff.2 ⟨p, hy, hx⟩

theorem Denotes.unique (hp : Denotes x p) (hq : Denotes x q) : p = q := by
  obtain ⟨e, rfl, he⟩ := hp
  obtain ⟨f, hf, hq⟩ := hq
  obtain rfl := Except.ok.inj hf
  funext v
  rw [← he, hq]

theorem Agree.trans (hxy : Agree x y) (hyz : Agree y z) : Agree x z := by
  obtain ⟨p, hx, hy⟩ := agree_iff.1 hxy
  obtain ⟨q, hy', hz⟩ := agree_iff.1 hyz
  obtain rfl := hy.unique hy'
  exact agree_iff.2 ⟨p, hx, hz⟩

/-! ### Operations on values -/

namespace Operand

/-- The operand is a number, a variable or an expression. -/
def Proper : Operand String Rat → Prop
  | other _ => False
  | number _ | var _ | expression _ => True

/-- The operand, lifted, has the values of `p`. -/
def Stands (name : Var → String) (a : Operand String Rat) (p : (String → Rat) → Rat) : Prop :=
  Denotes (a.lift name) p

theorem Proper.stands (ha : a.Proper) : a.Stands name (a.keyed name) := by
  have hlift : ∃ e, a.lift name = .ok e := by
    cases a with
    | number n => exact ⟨_, rfl⟩
    | var x => exact ⟨_, rfl⟩
    | expression e => exact ⟨e, rfl⟩
    | other o => exact ha.elim
  obtain ⟨e, he⟩ := hlift
  exact ⟨e, he, fun v => keyed_lift he⟩

/-- **`base + k * other` on values.** -/
theorem Stands.addScaled (ha : a.Stands name p) (hb : b.Stands name q) (k : Rat) :
    Denotes (addScaled name a (number k) b) fun v => p v + k * q v := by
  obtain ⟨e, he, hp⟩ := ha
  obtain ⟨f, hf, hq⟩ := hb
  obtain ⟨d, hd⟩ := e.exists_addScaled k f
  refine ⟨d, ?_, fun v => ?_⟩
  · rw [Operand.addScaled, he, hf, Except.ok_bind, Except.ok_bind, hd]
    rfl
  · rw [Affine.keyed_addScaled hd, hp, hq]

theorem stands_number (n : Rat) : (number n).Stands name fun _ => n := Proper.stands trivial

theorem Stands.add (ha : a.Stands name p) (hb : b.Stands name q) :
    Denotes (add name a b) fun v => p v + q v := by
  obtain ⟨e, he, h⟩ := ha.addScaled hb (Scalar.ofInt 1)
  refine ⟨e, he, fun v => ?_⟩
  simp [h, Scalar.ofInt]

theorem Stands.sub (ha : a.Stands name p) (hb : b.Stands name q) :
    Denotes (sub name a b) fun v => p v - q v := by
  obtain ⟨e, he, h⟩ := ha.addScaled hb (Scalar.ofInt (-1))
  refine ⟨e, he, fun v => ?_⟩
  simp [h, Scalar.ofInt, sub_eq_add_neg]

theorem Stands.scale (ha : a.Stands name p) (k : Rat) :
    Denotes (scale name (number k) a) fun v => k * p v := by
  obtain ⟨e, he, h⟩ := (stands_number (Scalar.ofInt 0)).addScaled ha k
  refine ⟨e, he, fun v => ?_⟩
  simp [h, Scalar.ofInt]

theorem Stands.neg (ha : a.Stands name p) : Denotes (neg name a) fun v => -p v := by
  obtain ⟨e, he, h⟩ := ha.scale (Scalar.ofInt (-1))
  refine ⟨e, he, fun v => ?_⟩
  simp [h, Scalar.ofInt]

theorem Stands.divide (ha : a.Stands name p) (k : Rat) :
    Denotes (divide name a (number k)) fun v => p v / k := by
  obtain ⟨e, he, h⟩ := ha.scale (1 / k)
  refine ⟨e, he, fun v => ?_⟩
  rw [h]
  ring

end Operand

/-- An operation on a result. -/
theorem Denotes.bind {g : Affine String Rat → Except AlgebraError (Affine String Rat)}
    (hx : Denotes x p) (hg : ∀ e, (Operand.expression e).Stands name p → Denotes (g e) q) :
    Denotes (x >>= g) q := by
  obtain ⟨e, rfl, he⟩ := hx
  exact hg e ⟨e, rfl, he⟩

/-! ### The laws -/

namespace Operand

/-- Lifted to expressions the operands are equal. -/
def Same (name : Var → String) (a b : Operand String Rat) : Prop :=
  Agree (a.lift name) (b.lift name)

/-- **The laws of the algebra** for operands `a`, `b`, `c` and numbers `j`, `k`. -/
structure Laws (name : Var → String) (a b c : Operand String Rat) (j k : Rat) : Prop where
  add_comm : Agree (add name a b) (add name b a)
  add_assoc : Agree (add name a b >>= fun e => add name (expression e) c)
    (add name b c >>= fun e => add name a (expression e))
  add_zero : Agree (add name a (number 0)) (a.lift name)
  zero_add : Agree (add name (number 0) a) (a.lift name)
  add_neg : Agree (neg name a >>= fun e => add name a (expression e)) ((number 0).lift name)
  neg_add : Agree (neg name a >>= fun e => add name (expression e) a) ((number 0).lift name)
  sub_eq : Agree (sub name a b) (neg name b >>= fun e => add name a (expression e))
  scale_add : Agree (add name a b >>= fun e => scale name (number k) (expression e))
    (scale name (number k) a >>= fun e => scale name (number k) b >>= fun f =>
      add name (expression e) (expression f))
  scale_scale : Agree (scale name (number k) a >>= fun e => scale name (number j) (expression e))
    (scale name (number (j * k)) a)
  add_scale : Agree (scale name (number (j + k)) a)
    (scale name (number j) a >>= fun e => scale name (number k) a >>= fun f =>
      add name (expression e) (expression f))
  addScaled_eq : Agree (addScaled name a (number k) b)
    (scale name (number k) b >>= fun e => add name a (expression e))
  addScaled_zero : Agree (addScaled name a (number 0) b) (a.lift name)
  scale_divide : k ≠ 0 →
    Agree (divide name a (number k) >>= fun e => scale name (number k) (expression e))
      (a.lift name)
  same_refl : a.Same name a
  same_symm : a.Same name b → b.Same name a
  same_trans : a.Same name b → b.Same name c → a.Same name c
  /-- Equality can always be told. -/
  exists_same : ∀ e f, a.lift name = .ok e → b.lift name = .ok f → ∃ t, e.same f = .ok t
  addScaled_congr : ∀ a' b', a.Same name a' → b.Same name b' →
    Agree (addScaled name a (number k) b) (addScaled name a' (number k) b')
  add_congr : ∀ a' b', a.Same name a' → b.Same name b' → Agree (add name a b) (add name a' b')
  sub_congr : ∀ a' b', a.Same name a' → b.Same name b' → Agree (sub name a b) (sub name a' b')
  neg_congr : ∀ a', a.Same name a' → Agree (neg name a) (neg name a')
  scale_congr : ∀ a', a.Same name a' →
    Agree (scale name (number k) a) (scale name (number k) a')
  divide_congr : ∀ a', a.Same name a' →
    Agree (divide name a (number k)) (divide name a' (number k))
  /-- No term is dropped, whatever its factor has become. -/
  keys_addScaled : ∀ e, addScaled name a (number k) b = .ok e →
    e.linear.keys = (a.keys name ++ b.keys name).eraseDups
  /-- What cancels leaves zeros behind. -/
  sub_self : ∀ e, sub name a a = .ok e →
    e.linear.keys = a.keys name ∧ ∀ key, e.linear.factor key = 0
  /-- A term that is not there is as good as one with the factor zero. -/
  same_insert_zero : ∀ e key x, a.lift name = .ok e → key ∉ e.linear.keys →
    e.same ⟨e.linear.insert ⟨key, 0, x⟩, e.constant⟩ = .ok true

/-! Equal operands may stand for each other: they stand for the same values. -/

section Congruence

variable (hab : a.Same name a') (hbb : b.Same name b')

include hab

theorem Same.exists_stands : ∃ p, a.Stands name p ∧ a'.Stands name p := agree_iff.1 hab

theorem Same.scale (k : Rat) : Agree (scale name (number k) a) (scale name (number k) a') := by
  obtain ⟨p, pa, pa'⟩ := hab.exists_stands
  exact agree_iff.2 ⟨_, pa.scale k, pa'.scale k⟩

theorem Same.neg : Agree (neg name a) (neg name a') := by
  obtain ⟨p, pa, pa'⟩ := hab.exists_stands
  exact agree_iff.2 ⟨_, pa.neg, pa'.neg⟩

theorem Same.divide (k : Rat) : Agree (divide name a (number k)) (divide name a' (number k)) := by
  obtain ⟨p, pa, pa'⟩ := hab.exists_stands
  exact agree_iff.2 ⟨_, pa.divide k, pa'.divide k⟩

include hbb

theorem Same.addScaled (k : Rat) :
    Agree (addScaled name a (number k) b) (addScaled name a' (number k) b') := by
  obtain ⟨p, pa, pa'⟩ := hab.exists_stands
  obtain ⟨q, pb, pb'⟩ := hbb.exists_stands
  exact agree_iff.2 ⟨_, pa.addScaled pb k, pa'.addScaled pb' k⟩

theorem Same.add : Agree (add name a b) (add name a' b') := hab.addScaled hbb _

theorem Same.sub : Agree (sub name a b) (sub name a' b') := hab.addScaled hbb _

end Congruence

/-! What cancels and what was never there. -/

theorem same_insert_zero (e : Affine String Rat) {key : String} (x : Var)
    (h : key ∉ e.linear.keys) :
    e.same ⟨e.linear.insert ⟨key, 0, x⟩, e.constant⟩ = .ok true := by
  refine Affine.same_iff_entry.2 fun i => ?_
  cases i with
  | none => rfl
  | some other =>
    show e.linear.factor other = (e.linear.insert ⟨key, 0, x⟩).factor other
    rw [Linear.factor_insert]
    by_cases hkey : key == other
    · obtain rfl : key = other := eq_of_beq hkey
      rw [if_pos hkey, Linear.factor_of_notMem h]
    · rw [if_neg hkey]

theorem keys_sub_self (h : sub name a a = .ok e) : e.linear.keys = a.keys name := by
  have hnone : (a.keys name).removeAll (a.keys name) = [] := by
    refine List.filter_eq_nil_iff.2 fun key hkey => ?_
    simpa using hkey
  rw [keys_addScaled h, List.eraseDups_append, a.nodup_keys.eraseDups_eq, hnone]
  simp

theorem factor_sub_self (ha : a.Proper) (h : sub name a a = .ok e) (key : String) :
    e.linear.factor key = 0 := by
  have pa : a.Stands name (a.keyed name) := ha.stands
  obtain ⟨e', he', hzero⟩ := pa.sub pa
  obtain rfl := Except.ok.inj (h.symm.trans he')
  have hvalue : ∀ v, e.keyed v = (Affine.ofNumber 0 : Affine String Rat).keyed v := by
    intro v
    rw [hzero]
    simp [Affine.keyed, Affine.ofNumber, Linear.keyed, Linear.empty]
  exact Affine.entry_eq_iff_keyed.2 hvalue (some key)

/-- **The laws hold** of all numbers, variables and expressions. -/
theorem laws (ha : a.Proper) (hb : b.Proper) (hc : c.Proper) (j k : Rat) :
    Laws name a b c j k := by
  have pa : a.Stands name (a.keyed name) := ha.stands
  have pb : b.Stands name (b.keyed name) := hb.stands
  have pc : c.Stands name (c.keyed name) := hc.stands
  have pzero : (number 0).Stands name fun _ => 0 := stands_number 0
  exact {
    add_comm := (pa.add pb).agree (pb.add pa) fun v => add_comm ..
    add_assoc := ((pa.add pb).bind fun _ he => he.add pc).agree
      ((pb.add pc).bind fun _ he => pa.add he) fun v => add_assoc ..
    add_zero := (pa.add pzero).agree pa fun v => add_zero _
    zero_add := (pzero.add pa).agree pa fun v => zero_add _
    add_neg := (pa.neg.bind fun _ he => pa.add he).agree pzero fun v => add_neg_cancel _
    neg_add := (pa.neg.bind fun _ he => he.add pa).agree pzero fun v => neg_add_cancel _
    sub_eq := (pa.sub pb).agree (pb.neg.bind fun _ he => pa.add he) fun v => sub_eq_add_neg ..
    scale_add := ((pa.add pb).bind fun _ he => he.scale k).agree
      ((pa.scale k).bind fun _ he => (pb.scale k).bind fun _ hf => he.add hf)
      fun v => mul_add ..
    scale_scale := ((pa.scale k).bind fun _ he => he.scale j).agree (pa.scale (j * k))
      fun v => (mul_assoc ..).symm
    add_scale := (pa.scale (j + k)).agree
      ((pa.scale j).bind fun _ he => (pa.scale k).bind fun _ hf => he.add hf)
      fun v => add_mul ..
    addScaled_eq := (pa.addScaled pb k).agree ((pb.scale k).bind fun _ he => pa.add he)
      fun v => rfl
    addScaled_zero := (pa.addScaled pb 0).agree pa fun v => by rw [zero_mul, add_zero]
    scale_divide := fun hk => ((pa.divide k).bind fun _ he => he.scale k).agree pa
      fun v => mul_div_cancel₀ _ hk
    same_refl := pa.agree pa fun v => rfl
    same_symm := Agree.symm
    same_trans := Agree.trans
    exists_same := fun e f _ _ => by
      obtain ⟨t, ht, -⟩ := e.exists_same f
      exact ⟨t, ht⟩
    addScaled_congr := fun _ _ hsa hsb => hsa.addScaled hsb k
    add_congr := fun _ _ => Same.add
    sub_congr := fun _ _ => Same.sub
    neg_congr := fun _ => Same.neg
    scale_congr := fun _ hsa => hsa.scale k
    divide_congr := fun _ hsa => hsa.divide k
    keys_addScaled := fun e he => keys_addScaled he
    sub_self := fun e he => ⟨keys_sub_self he, factor_sub_self ha he⟩
    same_insert_zero := fun e key x _ => same_insert_zero e x }

theorem laws_of_expression :
    Laws twoNames (var ⟨0⟩) (number 2) (expression .zeroBehind) 3 (1 / 2) := by
  have ha : Proper (var ⟨0⟩) := trivial
  have hb : Proper (number 2) := trivial
  have hc : Proper (expression .zeroBehind) := trivial
  exact laws ha hb hc 3 (1 / 2)

end Operand

end Milp
