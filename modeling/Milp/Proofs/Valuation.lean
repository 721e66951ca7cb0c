import Milp.Proofs.Stating
import Milp.Affine.Evaluation
import Mathlib.Data.List.Induction
import Mathlib.Tactic.Ring
import Mathlib.Tactic.FieldSimp

/-!
# The value of what was read

Over the rationals the algebra is ordinary arithmetic. Expressions are added by the keys of their
terms, so the value is taken by keys first: `Affine.keyed`. Where every term is filed under the name
of its variable that is the value at the names.

* `Formula.Builds.keyed_eq`: a tree has the value of every formula that it is built from;
* `Template.evaluate_correct`: so has the expression of a template.
-/

namespace Milp

variable {ν : Type}

/-! ### Numerals -/

theorem digitsValue_append_row (cs ds : List Char) :
    Text.digitsValue (cs ++ ds) =
      Text.digitsValue cs * 10 ^ ds.length + Text.digitsValue ds := by
  induction ds using List.reverseRecOn with
  | nil => simp [Text.digitsValue]
  | append_singleton ds d ih =>
    rw [← List.append_assoc, Text.digitsValue_append, Text.digitsValue_append, ih,
      List.length_append, List.length_singleton]
    ring

/-- A numeral is read as the number that it writes. -/
theorem Numeral.value_eq (n : Numeral) : (n.value : Rat) = n.rational := by
  have hsize : ((Text.digitsValue (n.whole ++ n.fraction) : Nat) : Rat) / 10 ^ n.fraction.length =
      Text.digitsValue n.whole + Text.digitsValue n.fraction / 10 ^ n.fraction.length := by
    rw [digitsValue_append_row]
    push_cast
    field_simp
  simp only [value, Scalar.ofLiteral, rational, hsize, beq_iff_eq]

/-! ### Values by keys -/

namespace Linear

variable [BEq ν] (v : ν → Rat)

/-- The sum of the factors, each times the value of its key. -/
def keyed (l : Linear ν Rat) : Rat := (l.terms.map fun t => t.factor * v t.key).sum

variable [LawfulBEq ν]

theorem sum_place (t : Term ν Rat) (us : List (Term ν Rat)) :
    ((place t us).map fun t => t.factor * v t.key).sum =
      (us.map fun t => t.factor * v t.key).sum +
        (t.factor - ((us.find? (·.key == t.key)).map Term.factor).getD 0) * v t.key := by
  induction us with
  | nil => simp [place]
  | cons u us ih =>
    by_cases hu : u.key == t.key
    · have hkey : u.key = t.key := eq_of_beq hu
      simp only [place, hkey, BEq.rfl, if_true, List.map_cons, List.sum_cons, List.find?_cons,
        Option.map_some, Option.getD_some]
      ring
    · simp only [place, hu, Bool.false_eq_true, if_false, List.map_cons, List.sum_cons, ih,
        List.find?_cons]
      ring

theorem keyed_insert (l : Linear ν Rat) (t : Term ν Rat) :
    (l.insert t).keyed v = l.keyed v + (t.factor - l.factor t.key) * v t.key := by
  have hf : l.factor t.key = ((l.terms.find? (·.key == t.key)).map Term.factor).getD 0 := by
    unfold factor find?
    cases l.terms.find? (·.key == t.key) <;> rfl
  rw [hf]
  exact sum_place v t l.terms

theorem keyed_addTerm {k : Rat} {l l' : Linear ν Rat} {t : Term ν Rat}
    (h : addTerm k l t = .ok l') : l'.keyed v = l.keyed v + k * (t.factor * v t.key) := by
  obtain ⟨p, x, hp, hx, rfl⟩ := addTerm_eq_ok h
  obtain rfl : k * t.factor = p := Except.ok.inj hp
  obtain rfl : l.factor t.key + k * t.factor = x := Except.ok.inj hx
  rw [keyed_insert]
  ring

theorem keyed_foldlM {k : Rat} {ts : List (Term ν Rat)} {l l' : Linear ν Rat}
    (h : ts.foldlM (addTerm k) l = .ok l') :
    l'.keyed v = l.keyed v + k * (ts.map fun t => t.factor * v t.key).sum := by
  induction ts generalizing l with
  | nil =>
    obtain rfl := Except.ok.inj h
    simp
  | cons t ts ih =>
    rw [List.foldlM_cons, Except.bind_eq_ok_iff] at h
    obtain ⟨l₁, h₁, h⟩ := h
    rw [ih h, keyed_addTerm v h₁, List.map_cons, List.sum_cons]
    ring

end Linear

/-- The constant and the value of the linear part. -/
def Affine.keyed [BEq ν] (v : ν → Rat) (e : Affine ν Rat) : Rat := e.constant + e.linear.keyed v

/-- `base + k * other` has the value that it says. -/
theorem Affine.keyed_addScaled [BEq ν] [LawfulBEq ν] {base other e : Affine ν Rat} {k : Rat}
    (h : base.addScaled k other = .ok e) (v : ν → Rat) :
    e.keyed v = base.keyed v + k * other.keyed v := by
  simp only [addScaled, Except.bind_eq_ok_iff, Except.pure_eq_ok_iff] at h
  obtain ⟨l, hl, p, hp, c, hc, rfl⟩ := h
  obtain rfl : k * other.constant = p := Except.ok.inj hp
  obtain rfl : base.constant + k * other.constant = c := Except.ok.inj hc
  have hl' : l.keyed v = base.linear.keyed v + k * other.linear.keyed v :=
    Linear.keyed_foldlM v hl
  simp only [keyed, hl']
  ring

/-! ### Operands -/

namespace Operand

/-- The value of an operand, of an expression by its keys. -/
def keyed [BEq ν] (name : Var → ν) (v : ν → Rat) : Operand ν Rat → Rat
  | number n => n
  | var x => v (name x)
  | expression e => e.keyed v
  | other _ => 0

variable [Name ν] {name : Var → ν} {v : ν → Rat} {a b c : Operand ν Rat} {e : Affine ν Rat}

theorem keyed_lift (h : a.lift name = .ok e) : e.keyed v = a.keyed name v := by
  cases a with
  | number n =>
    obtain rfl := Except.ok.inj h
    simp [Affine.keyed, Affine.ofNumber, Linear.keyed, Linear.empty, keyed]
  | var x =>
    simp only [lift] at h
    split at h
    · obtain rfl := Except.ok.inj h
      simp [Affine.keyed, Affine.ofVar, Linear.keyed, Linear.insert, Linear.place, Linear.empty,
        keyed, Scalar.one, Scalar.zero]
    · simp at h
  | expression e =>
    obtain rfl := Except.ok.inj h
    rfl
  | other o => simp [lift] at h

variable [LawfulBEq ν]

theorem keyed_addScaled {k : Rat} (h : addScaled name a (number k) b = .ok e) :
    e.keyed v = a.keyed name v + k * b.keyed name v := by
  simp only [addScaled, Except.bind_eq_ok_iff, Except.mapError_eq_ok_iff] at h
  obtain ⟨a', ha, b', hb, h⟩ := h
  rw [Affine.keyed_addScaled h, keyed_lift ha, keyed_lift hb]

theorem keyed_add (h : add name a b = .ok e) : e.keyed v = a.keyed name v + b.keyed name v := by
  have hk : (Scalar.ofInt 1 : Rat) = 1 := Int.cast_one
  rw [keyed_addScaled h, hk, one_mul]

theorem keyed_sub (h : sub name a b = .ok e) : e.keyed v = a.keyed name v - b.keyed name v := by
  have hk : (Scalar.ofInt (-1) : Rat) = -1 := by simp [Scalar.ofInt]
  rw [keyed_addScaled h, hk]
  ring

theorem keyed_scale {k : Rat} (h : scale name (number k) a = .ok e) :
    e.keyed v = k * a.keyed name v := by
  have hz : (ofInt 0 : Operand ν Rat).keyed name v = 0 := Int.cast_zero
  rw [keyed_addScaled h, hz, zero_add]

theorem keyed_divide {k : Rat} (h : divide name a (number k) = .ok e) :
    e.keyed v = a.keyed name v / k := by
  obtain ⟨r, hr, h⟩ := Except.bind_eq_ok_iff.1 h
  obtain rfl : 1 / k = r := Except.ok.inj hr
  rw [keyed_scale h]
  ring

/-- **Operations are ordinary arithmetic** on the values. -/
theorem Applies.keyed_eq {op : Formula.Operation} (h : Applies name op a b c) {q : Rat}
    (hq : op.apply (a.keyed name v) (b.keyed name v) = some q) : c.keyed name v = q := by
  cases h with
  | numbers hz =>
    cases op with
    | plus | minus | times =>
      obtain rfl := Except.ok.inj hz
      exact Option.some.inj hq
    | dividedBy =>
      obtain rfl := Except.ok.inj hz
      simp only [Formula.Operation.apply] at hq
      split at hq
      · simp at hq
      · exact Option.some.inj hq
  | plus h => exact (keyed_add h).trans (Option.some.inj hq)
  | minus h => exact (keyed_sub h).trans (Option.some.inj hq)
  | scaledLeft h => exact (keyed_scale h).trans (Option.some.inj hq)
  | scaledRight h => exact (keyed_scale h).trans ((mul_comm _ _).trans (Option.some.inj hq))
  | divided h =>
    simp only [Formula.Operation.apply] at hq
    split at hq
    · simp at hq
    · exact (keyed_divide h).trans (Option.some.inj hq)

end Operand

/-! ### Formulas -/

/-- **A tree has the value of every formula that it is built from.** -/
theorem Formula.Builds.keyed_eq [Name ν] [LawfulBEq ν] {name : Var → ν} {v : ν → Rat}
    {f : Formula (Operand ν Rat)} {t : Tree (Operand ν Rat)} (h : f.Builds name t)
    {a : Operand ν Rat} (ha : t.evaluate name = .ok a) {q : Rat}
    (hq : f.value (Operand.keyed name v) = some q) : a.keyed name v = q := by
  induction h generalizing a q with
  | numeral n =>
    obtain rfl := Except.ok.inj ha
    exact (Numeral.value_eq n).trans (Option.some.inj hq)
  | number x =>
    obtain rfl := Except.ok.inj ha
    exact Option.some.inj hq
  | lifted ho he =>
    obtain rfl := Except.ok.inj ha
    exact (Operand.keyed_lift he).trans (Option.some.inj hq)
  | binary _ _ ihf ihg =>
    obtain ⟨b, c, hb, hc, h⟩ := evaluate_binary_eq_ok ha
    simp only [value, Option.bind_eq_bind, Option.bind_eq_some_iff] at hq
    obtain ⟨x, hx, y, hy, hq⟩ := hq
    rw [← ihf hb hx, ← ihg hc hy] at hq
    exact h.keyed_eq hq

/-! ### Values at names -/

/-- The value of an expression, its variables having the values of their names. -/
def Affine.value [BEq ν] (name : Var → ν) (v : ν → Rat) (e : Affine ν Rat) : Rat :=
  e.constant + (e.linear.terms.map fun t => t.factor * v (name t.var)).sum

/-- The value of an operand; what is none counts as zero. -/
def Operand.value [BEq ν] (name : Var → ν) (v : ν → Rat) : Operand ν Rat → Rat
  | number n => n
  | var x => v (name x)
  | expression e => e.value name v
  | other _ => 0

section Filed

variable [BEq ν] {name : Var → ν}

theorem Affine.Filed.keyed_eq {e : Affine ν Rat} (h : e.Filed name) (v : ν → Rat) :
    e.keyed v = e.value name v := by
  have hmap : (e.linear.terms.map fun t => t.factor * v t.key) =
      e.linear.terms.map fun t => t.factor * v (name t.var) :=
    List.map_congr_left fun t ht => by rw [h t ht]
  rw [keyed, value, Linear.keyed, hmap]

theorem Operand.Filed.keyed_eq {o : Operand ν Rat} (h : o.Filed name) (v : ν → Rat) :
    o.keyed name v = o.value name v := by
  cases o with
  | expression e => exact Affine.Filed.keyed_eq h v
  | _ => rfl

end Filed

/-- A formula has the same value where its operands have. -/
theorem Formula.value_congr {ω : Type} {f : Formula ω} {of of' : ω → Rat}
    (h : ∀ o ∈ f.operands, of o = of' o) : f.value of = f.value of' := by
  induction f with
  | numeral n => rfl
  | operand o => rw [value, value, h o (List.mem_singleton_self o)]
  | binary op f g ihf ihg =>
    rw [value, value, ihf fun o ho => h o (List.mem_append_left _ ho),
      ihg fun o ho => h o (List.mem_append_right _ ho)]

section Congr

variable {ω : Type} {a : Assertion ω} {of of' : ω → Rat}

theorem Assertion.defined_congr (h : ∀ o ∈ a.operands, of o = of' o) :
    a.Defined of ↔ a.Defined of' := by
  rw [Defined, Defined, Formula.value_congr fun o ho => h o (List.mem_append_left _ ho),
    Formula.value_congr fun o ho => h o (List.mem_append_right _ ho)]

theorem Assertion.holds_congr (h : ∀ o ∈ a.operands, of o = of' o) :
    a.Holds of ↔ a.Holds of' := by
  rw [Holds, Holds, Formula.value_congr fun o ho => h o (List.mem_append_left _ ho),
    Formula.value_congr fun o ho => h o (List.mem_append_right _ ho)]

end Congr

/-! ### Templates -/

section Text

variable {name : Var → String} {v : String → Rat}

/-- Evaluation at numbers gives the value. -/
theorem Affine.evaluate_eq (e : Affine String Rat) :
    e.evaluate name (fun n => some (.number (v n))) = .ok (.number (e.value name v)) := by
  have key (ts : List (Term String Rat)) (start : Rat) :
      ts.foldlM (fun sum t => do
        let value ← valueOf (fun n => some (.number (v n))) (name t.var)
        (extend name sum t.factor value).mapError .algebra) (.number start) =
      .ok (.number (start + (ts.map fun t => t.factor * v (name t.var)).sum)) := by
    induction ts generalizing start with
    | nil => simp
    | cons t ts ih =>
      rw [List.foldlM_cons, List.map_cons, List.sum_cons, ← add_assoc]
      exact ih _
  exact key e.linear.terms e.constant

/-- **Evaluation keeps the meaning of a source**: the expression of a template takes at every
valuation the value of what the template says, unless a divisor is zero. -/
theorem Template.evaluate_correct {t : Template (Operand String Rat)} {e : Affine String Rat}
    (ho : ∀ o ∈ t.operands, o.Filed name) (h : t.evaluate name = .ok e) :
    (∃ f, t.Says f) ∧ ∀ f, t.Says f → ∀ v q, f.value (Operand.value name v) = some q →
      e.evaluate name (fun n => some (.number (v n))) = .ok (.number q) := by
  obtain ⟨tree, a, ht, ha, he⟩ := evaluate_eq_ok h
  obtain ⟨hexists, hbuilds⟩ := builds ht
  refine ⟨hexists, fun f hf v q hq => ?_⟩
  have hb := hbuilds f hf
  rw [← hf.operands_eq] at ho
  have hfiled : e.Filed name := Affine.filed_iff.2 fun key x hx => by
    rw [Operand.var?_lift he, hb.var?_eq ha] at hx
    obtain ⟨o, hmem, hx⟩ := Formula.exists_operand_of_var? hx
    exact (ho o hmem).name_eq hx
  rw [Formula.value_congr fun o h => ((ho o h).keyed_eq v).symm] at hq
  rw [Affine.evaluate_eq, ← hfiled.keyed_eq, Operand.keyed_lift he, hb.keyed_eq ha hq]

/-- `2*{} -3`, with a variable at the placeholder. -/
def Template.twiceLessThree : Template (Operand String Rat) := ⟨"2*", [(.var ⟨0⟩, " -3")]⟩

theorem Template.says_twiceLessThree : twiceLessThree.Says
    (.binary .plus (.binary .times (.numeral ⟨none, ['2'], []⟩) (.operand (.var ⟨0⟩)))
      (.numeral ⟨some '-', ['3'], []⟩)) := by
  have h₁ : Milp.Spells .expression "2*".toList [.numeral ⟨none, ['2'], []⟩, .operator '*'] :=
    .lexeme (l := .numeral ⟨none, ['2'], []⟩) (Lexeme.read?_eq_some_iff.1 (by decide +kernel))
      (.lexeme (l := .operator '*') (Lexeme.read?_eq_some_iff.1 (by decide +kernel)) .nil)
  have h₂ : Milp.Spells .expression " -3".toList [.numeral ⟨some '-', ['3'], []⟩] :=
    .blank (by decide +kernel) (.lexeme (l := .numeral ⟨some '-', ['3'], []⟩)
      (Lexeme.read?_eq_some_iff.1 (by decide +kernel)) .nil)
  refine ⟨_, .more h₁ (.last h₂), ?_⟩
  have hp : SaysProduct (ω := Operand String Rat) [.lexeme (.numeral ⟨none, ['2'], []⟩),
      .lexeme (.operator Formula.Operation.times.char), .operand (.var ⟨0⟩)] _ :=
    .more (.primary (.numeral _)) rfl (.operand _)
  exact .beside (.product hp) rfl (.primary (.numeral _))

theorem Template.evaluate_twiceLessThree :
    ∃ e, twiceLessThree.evaluate (fun _ => "x") = .ok e ∧
      e.evaluate (fun _ => "x") (fun _ => some (.number 5)) = .ok (.number 7) := by
  have hok : (twiceLessThree.evaluate fun _ => "x").toOption.isSome := by decide +kernel
  cases h : twiceLessThree.evaluate fun _ => "x" with
  | error _ => simp [h, Except.toOption] at hok
  | ok e =>
    have ho : ∀ o ∈ twiceLessThree.operands, o.Filed fun _ => "x" := by
      simp [twiceLessThree, operands, Operand.Filed]
    refine ⟨e, rfl, (evaluate_correct ho h).2 _ says_twiceLessThree (fun _ => 5) 7 ?_⟩
    decide +kernel

end Text

end Milp
