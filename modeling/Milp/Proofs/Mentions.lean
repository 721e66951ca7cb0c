import Milp.Proofs.Building
import Mathlib.Data.List.Find

/-!
# In which order terms stand

The terms of an expression stand in the order in which their names are first mentioned, whatever is
done to them: where expressions are merged, the keys of the one that is merged into stay where they
are, and of the other's those that are new come behind them. So the terms of what is read can be
listed from the operands alone, and with them the variables: `terms_in_order`. The factors do not
matter; a term stays even if its factor becomes zero.
-/

namespace List

variable {α : Type} [BEq α] [LawfulBEq α]

/-! ### Lists without repetitions -/

theorem nodup_eraseDups : (as : List α) → as.eraseDups.Nodup
  | [] => .nil
  | a :: as => by
    rw [eraseDups_cons, nodup_cons]
    exact ⟨by simp, nodup_eraseDups _⟩
termination_by as => as.length
decreasing_by exact Nat.lt_succ_of_le (length_filter_le ..)

theorem Nodup.eraseDups_eq {as : List α} (h : as.Nodup) : as.eraseDups = as := by
  induction as with
  | nil => rfl
  | cons a as ih =>
    rw [nodup_cons] at h
    have hfilter : as.filter (fun b => !b == a) = as := by
      refine filter_eq_self.2 fun b hb => ?_
      have hne : b ≠ a := fun hba => h.1 (hba ▸ hb)
      simpa using hne
    rw [eraseDups_cons, hfilter, ih h.2]

/-- It does not matter whether something is left out before or after the repetitions are. -/
theorem eraseDups_filter (p : α → Bool) :
    (as : List α) → (as.filter p).eraseDups = as.eraseDups.filter p
  | [] => rfl
  | a :: as => by
    have ih := eraseDups_filter p (as.filter fun b => !b == a)
    rw [eraseDups_cons, filter_cons, filter_cons, ← ih, filter_filter]
    split
    · rw [eraseDups_cons, filter_filter]
      simp only [Bool.and_comm]
    · next ha =>
      congr 1
      refine filter_congr fun b _ => ?_
      cases hb : p b with
      | false => rfl
      | true =>
        have hne : b ≠ a := fun hba => ha (hba ▸ hb)
        simpa using hne
termination_by as => as.length
decreasing_by exact Nat.lt_succ_of_le (length_filter_le ..)

theorem eraseDups_append_left (as bs : List α) :
    (as.eraseDups ++ bs).eraseDups = (as ++ bs).eraseDups := by
  rw [eraseDups_append, eraseDups_append, (nodup_eraseDups as).eraseDups_eq]
  congr 2
  refine filter_congr fun b _ => ?_
  simp

theorem eraseDups_append_right (as bs : List α) :
    (as ++ bs.eraseDups).eraseDups = (as ++ bs).eraseDups := by
  rw [eraseDups_append, eraseDups_append, removeAll, removeAll, eraseDups_filter, eraseDups_filter,
    (nodup_eraseDups bs).eraseDups_eq]

end List

namespace Milp

variable {ν α : Type}

/-! ### Keys in order -/

namespace Linear

variable [BEq ν] [LawfulBEq ν]

theorem nodup_keys (l : Linear ν α) : l.keys.Nodup := l.distinct.imp fun h => ne_of_beq_false h

/-- A new key comes last. -/
theorem keys_insert (l : Linear ν α) (t : Term ν α) :
    (l.insert t).keys = (l.keys ++ [t.key]).eraseDups := by
  have hkeys : (l.insert t).keys =
      if l.terms.any (·.key == t.key) then l.keys else l.keys ++ [t.key] := map_key_place t l.terms
  have hmem : l.terms.any (·.key == t.key) = true ↔ t.key ∈ l.keys := by simp [keys]
  rw [hkeys, List.eraseDups_append, l.nodup_keys.eraseDups_eq]
  by_cases h : t.key ∈ l.keys
  · simp [hmem.2 h, List.removeAll, h]
  · rw [if_neg (mt hmem.1 h)]
    simp [List.removeAll, h, List.eraseDups_cons]

variable [Scalar α]

/-- **The keys of what is merged**, one term after the other. -/
theorem keys_foldlM {k : α} {ts : List (Term ν α)} {l l' : Linear ν α}
    (h : ts.foldlM (addTerm k) l = .ok l') : l'.keys = (l.keys ++ ts.map Term.key).eraseDups := by
  induction ts generalizing l with
  | nil =>
    obtain rfl := Except.ok.inj h
    rw [List.map_nil, List.append_nil, l.nodup_keys.eraseDups_eq]
  | cons t ts ih =>
    rw [List.foldlM_cons, Except.bind_eq_ok_iff] at h
    obtain ⟨l₁, h₁, h⟩ := h
    obtain ⟨p, x, -, -, rfl⟩ := addTerm_eq_ok h₁
    rw [ih h, keys_insert, List.eraseDups_append_left, List.append_assoc]
    rfl

end Linear

theorem Affine.keys_addScaled [BEq ν] [LawfulBEq ν] [Scalar α] {base other e : Affine ν α} {k : α}
    (h : base.addScaled k other = .ok e) :
    e.linear.keys = (base.linear.keys ++ other.linear.keys).eraseDups := by
  simp only [addScaled, Except.bind_eq_ok_iff, Except.pure_eq_ok_iff] at h
  obtain ⟨l, hl, p, -, c, -, rfl⟩ := h
  exact Linear.keys_foldlM hl

/-! ### Operands -/

namespace Operand

/-- The names that an operand mentions, in order. -/
def keys [BEq ν] (name : Var → ν) : Operand ν α → List ν
  | var x => [name x]
  | expression e => e.linear.keys
  | number _ | other _ => []

/-- The variables that an operand mentions, in order. -/
def mentions [BEq ν] : Operand ν α → List Var
  | var x => [x]
  | expression e => e.vars
  | number _ | other _ => []

variable [Name ν] {name : Var → ν}

theorem Filed.keys_eq {o : Operand ν α} (h : o.Filed name) : o.keys name = o.mentions.map name := by
  cases o with
  | var _ | number _ | other _ => rfl
  | expression e =>
    rw [keys, mentions, Linear.keys, Affine.vars, List.map_map]
    exact List.map_congr_left h

/-- Under a name an operand mentions the first of its variables that has the name. -/
theorem Filed.var?_eq {o : Operand ν α} (h : o.Filed name) (key : ν) :
    o.var? name key = o.mentions.find? (name · == key) := by
  cases o with
  | number _ | other _ => rfl
  | var x =>
    rw [var?, mentions, List.find?_singleton]
  | expression e =>
    have hfind : e.vars.find? (name · == key) =
        (e.linear.terms.find? fun t => name t.var == key).map Term.var := List.find?_map ..
    rw [var?, mentions, hfind, Affine.var?, Linear.var?, Linear.find?]
    congr 1
    exact List.find?_congr fun t ht => by rw [h t ht]

theorem nodup_keys [LawfulBEq ν] (o : Operand ν α) : (o.keys name).Nodup := by
  cases o with
  | var x => exact List.pairwise_singleton _ _
  | expression e => exact e.linear.nodup_keys
  | number _ | other _ => exact .nil

variable [Scalar α]

theorem keys_lift {o : Operand ν α} {e : Affine ν α} (h : o.lift name = .ok e) :
    e.linear.keys = o.keys name := by
  cases o with
  | number n | expression e' =>
    obtain rfl := Except.ok.inj h
    rfl
  | var x =>
    simp only [lift] at h
    split at h
    · obtain rfl := Except.ok.inj h
      rfl
    · simp at h
  | other o => simp [lift] at h

variable [LawfulBEq ν]

theorem keys_addScaled {a b k : Operand ν α} {e : Affine ν α} (h : addScaled name a k b = .ok e) :
    e.linear.keys = (a.keys name ++ b.keys name).eraseDups := by
  unfold addScaled at h
  split at h
  · simp only [Except.bind_eq_ok_iff, Except.mapError_eq_ok_iff] at h
    obtain ⟨a', ha, b', hb, h⟩ := h
    rw [Affine.keys_addScaled h, keys_lift ha, keys_lift hb]
  · simp at h

theorem keys_scale {a k : Operand ν α} {e : Affine ν α} (h : scale name k a = .ok e) :
    e.linear.keys = a.keys name :=
  (keys_addScaled h).trans a.nodup_keys.eraseDups_eq

theorem keys_divide {a k : Operand ν α} {e : Affine ν α} (h : divide name a k = .ok e) :
    e.linear.keys = a.keys name := by
  unfold divide at h
  split at h
  · obtain ⟨k, -, h⟩ := Except.bind_eq_ok_iff.1 h
    exact keys_scale h
  · simp at h

/-- **An operation mentions** what its left operand does, and then what is new in its right one. -/
theorem Applies.keys_eq {op : Formula.Operation} {a b c : Operand ν α} (h : Applies name op a b c) :
    c.keys name = (a.keys name ++ b.keys name).eraseDups := by
  have hnumber (x : α) : (a.keys name ++ (number x).keys name).eraseDups = a.keys name := by
    rw [show (number x : Operand ν α).keys name = [] from rfl, List.append_nil,
      a.nodup_keys.eraseDups_eq]
  cases h with
  | numbers _ => rfl
  | plus h | minus h => exact keys_addScaled h
  | scaledLeft h => exact (keys_scale h).trans b.nodup_keys.eraseDups_eq.symm
  | scaledRight h => exact (keys_scale h).trans (hnumber _).symm
  | divided h => exact (keys_divide h).trans (hnumber _).symm

end Operand

/-! ### Formulas -/

section Formula

variable [Name ν] {name : Var → ν}

namespace Formula

/-- **Where a formula mentions a name first**, from left to right. -/
theorem var?_eq_find? {f : Formula (Operand ν α)} (h : ∀ o ∈ f.operands, o.Filed name) (key : ν) :
    f.var? name key = (f.operands.flatMap Operand.mentions).find? (name · == key) := by
  induction f with
  | numeral n => rfl
  | operand o =>
    rw [var?, (h o (List.mem_singleton_self o)).var?_eq]
    simp [operands]
  | binary op f g ihf ihg =>
    rw [operands, List.forall_mem_append] at h
    rw [var?, ihf h.1, ihg h.2, operands, List.flatMap_append, List.find?_append]

theorem flatMap_keys {os : List (Operand ν α)} (h : ∀ o ∈ os, o.Filed name) :
    os.flatMap (Operand.keys name) = (os.flatMap Operand.mentions).map name := by
  rw [List.map_flatMap]
  exact List.flatMap_congr fun o ho => (h o ho).keys_eq

variable [Scalar α] [LawfulBEq ν]

/-- **The names in a value** are the ones that the operands mention, each where it comes first. -/
theorem Builds.keys_eq {f : Formula (Operand ν α)} {t : Tree (Operand ν α)} (h : f.Builds name t)
    {a : Operand ν α} (ha : t.evaluate name = .ok a) :
    a.keys name = (f.operands.flatMap (Operand.keys name)).eraseDups := by
  induction h generalizing a with
  | numeral n | number x =>
    obtain rfl := Except.ok.inj ha
    rfl
  | @lifted o e _ he =>
    obtain rfl := Except.ok.inj ha
    rw [operands, List.flatMap_singleton, o.nodup_keys.eraseDups_eq]
    exact Operand.keys_lift he
  | binary _ _ ihf ihg =>
    obtain ⟨b, c, hb, hc, h⟩ := evaluate_binary_eq_ok ha
    rw [h.keys_eq, ihf hb, ihg hc, List.eraseDups_append_left, List.eraseDups_append_right,
      operands, List.flatMap_append]

theorem Yields.keys_eq {f : Formula (Operand ν α)} {o : Operand ν α} (h : f.Yields name o) :
    o.keys name = (f.operands.flatMap (Operand.keys name)).eraseDups := by
  cases h with
  | operand o => rw [operands, List.flatMap_singleton, o.nodup_keys.eraseDups_eq]
  | read hb ha he => exact (Operand.keys_lift he).trans (hb.keys_eq ha)

end Formula

/-! ### Terms in order -/

/-- **The terms are those of the variables**: the names in them are all different, they stand where
they first come in the list, every term has the variable that comes there, and it is filed under the
name of the variable. -/
structure Affine.Lists (name : Var → ν) (e : Affine ν α) (xs : List Var) : Prop where
  names : (e.terms name).map Prod.fst = (xs.map name).eraseDups
  nodup : ((e.terms name).map Prod.fst).Nodup
  first : ∀ t ∈ e.linear.terms, xs.find? (name · == t.key) = some t.var
  filed : e.Filed name

theorem Affine.lists_of [LawfulBEq ν] {e : Affine ν α} {xs : List Var}
    (hkeys : e.linear.keys = (xs.map name).eraseDups)
    (hvar : ∀ key, e.var? key = xs.find? (name · == key)) : e.Lists name xs := by
  have hfirst : ∀ t ∈ e.linear.terms, xs.find? (name · == t.key) = some t.var := by
    intro t ht
    rw [← hvar, var?, Linear.var?, Linear.mem_terms_iff.1 ht]
    rfl
  have hfiled : e.Filed name := fun t ht =>
    (eq_of_beq (List.find?_some (p := (name · == t.key)) (hfirst t ht))).symm
  have hnames : (e.terms name).map Prod.fst = e.linear.keys := by
    rw [terms, List.map_map, Linear.keys]
    exact (List.map_congr_left hfiled).symm
  exact ⟨hnames.trans hkeys, hnames ▸ e.linear.nodup_keys, hfirst, hfiled⟩

/-- The operands in the order in which they are merged: those of the side that is not subtracted and
then those of the one that is. -/
def Assertion.merged {ω : Type} (a : Assertion ω) : List ω :=
  if a.sense = .ge then a.right.operands ++ a.left.operands else a.left.operands ++ a.right.operands

theorem Assertion.var?_eq_find? {a : Assertion (Operand ν α)}
    (h : ∀ o ∈ a.operands, o.Filed name) (key : ν) :
    a.var? name key = (a.merged.flatMap Operand.mentions).find? (name · == key) := by
  obtain ⟨hl, hr⟩ := List.forall_mem_append.1 h
  rw [var?, merged, Formula.var?_eq_find? hl, Formula.var?_eq_find? hr]
  split <;> rw [List.flatMap_append, List.find?_append]

theorem Assertion.forall_merged_iff {ω : Type} {a : Assertion ω} {P : ω → Prop} :
    (∀ o ∈ a.merged, P o) ↔ ∀ o ∈ a.operands, P o := by
  unfold merged operands
  split
  · simp only [List.forall_mem_append, and_comm]
  · rfl

variable [Scalar α] [LawfulBEq ν]

/-- **The names in a constraint** are those of the side that is not subtracted and then those that
are new in the other one. -/
theorem Constraint.keys_compare {left right : Operand ν α} {s : Sense} {c : Constraint ν α}
    (h : compare name left s right = .ok c) : c.expression.linear.keys =
      if s = .ge then (right.keys name ++ left.keys name).eraseDups
      else (left.keys name ++ right.keys name).eraseDups := by
  obtain ⟨-, h⟩ := compare_eq_ok h
  split at h
  · next hs => rw [if_pos hs, Operand.keys_addScaled h]
  · next hs => rw [if_neg hs, Operand.keys_addScaled h]

theorem Model.keys_readConstraint {g : Given ν α} {operands : List (Operand ν α)}
    {c : Constraint ν α} (h : readConstraint name g operands = .ok c)
    {a : Assertion (Operand ν α)} (ha : g.States name operands a) :
    c.expression.linear.keys = (a.merged.flatMap (Operand.keys name)).eraseDups := by
  obtain rfl | ⟨l, r, hl, hr, hc⟩ := (readConstraint_eq_ok h).2 a ha
  · have hmerged : c.assertion.merged = [.expression c.expression, .number Scalar.zero] := by
      unfold Constraint.assertion Assertion.merged
      cases c.isEquality <;> rfl
    have hkeys : [Operand.expression c.expression, .number Scalar.zero].flatMap
        (Operand.keys name) = c.expression.linear.keys := by simp [Operand.keys]
    rw [hmerged, hkeys, c.expression.linear.nodup_keys.eraseDups_eq]
  · rw [Constraint.keys_compare hc, hl.keys_eq, hr.keys_eq, Assertion.merged]
    split <;>
      rw [List.eraseDups_append_left, List.eraseDups_append_right, List.flatMap_append]

/-- **The terms stand in the order of first mention.** Where a template stands for an expression,
its terms are those of the variables that the operands mention, from left to right. It is the same
with a constraint that is read and everything that it states, from the side that is not subtracted
to the one that is. Of the operands it is asked that they file their terms under the names of the
variables, as everything does that the algebra builds: `Affine.Built.filed`. -/
theorem terms_in_order (name : Var → ν) :
    (∀ (t : Template (Operand ν α)) e, t.evaluate name = .ok e → (∀ o ∈ t.operands, o.Filed name) →
      e.Lists name (t.operands.flatMap Operand.mentions)) ∧
    ∀ (g : Given ν α) operands c, Model.readConstraint name g operands = .ok c →
      (∃ a, g.States name operands a) ∧ ∀ a, g.States name operands a →
        (∀ o ∈ a.operands, o.Filed name) →
          c.expression.Lists name (a.merged.flatMap Operand.mentions) := by
  refine ⟨fun t e he ht => ?_, fun g operands c hc => ⟨(Model.readConstraint_eq_ok hc).1, ?_⟩⟩
  · obtain ⟨tree, a, htree, ha, hlift⟩ := Template.evaluate_eq_ok he
    obtain ⟨⟨f, hf⟩, hbuilds⟩ := Template.builds htree
    rw [← hf.operands_eq] at ht ⊢
    refine Affine.lists_of ?_ fun key => ?_
    · rw [Operand.keys_lift hlift, (hbuilds f hf).keys_eq ha, Formula.flatMap_keys ht]
    · rw [Operand.var?_lift hlift, (hbuilds f hf).var?_eq ha, Formula.var?_eq_find? ht]
  · intro a ha hfiled
    refine Affine.lists_of ?_ fun key => ?_
    · rw [Model.keys_readConstraint hc ha,
        Formula.flatMap_keys (Assertion.forall_merged_iff.2 hfiled)]
    · rw [Model.var?_readConstraint hc ha, Assertion.var?_eq_find? hfiled]

end Formula

/-! ### A term that is cancelled -/

/-- The names of two variables. -/
def nameOfTwo (x : Var) : String := if x.index = 0 then "a" else "b"

/-- The source `b - a - b`, in which the first operand is an expression. -/
def cancelling : Template (Operand String Rat) :=
  ⟨"", [(.expression (.ofVar nameOfTwo ⟨1⟩), " - "), (.var ⟨0⟩, " - "), (.var ⟨1⟩, "")]⟩

/-- In `b - a - b` the name `b` comes first and stays, and of `a >= b` it comes first too. -/
theorem terms_in_order_cancelling :
    (∃ e, cancelling.evaluate nameOfTwo = .ok e ∧ (e.terms nameOfTwo).map Prod.fst = ["b", "a"]) ∧
    ∃ c, Model.readConstraint nameOfTwo (.operand (.var ⟨0⟩))
      [Model.comparatorText .ge, .var ⟨1⟩] = .ok c ∧
        (c.expression.terms nameOfTwo).map Prod.fst = ["b", "a"] := by
  constructor
  · obtain ⟨e, he⟩ := Except.isSome_toOption_iff.1
      (show (cancelling.evaluate nameOfTwo).toOption.isSome = true by decide +kernel)
    have hfiled : (Affine.ofVar nameOfTwo ⟨1⟩ : Affine String Rat).Filed nameOfTwo := fun t ht => by
      obtain rfl := List.mem_singleton.1 ht
      rfl
    have hlists := (terms_in_order nameOfTwo).1 cancelling e he
      (by simp [cancelling, Template.operands, Operand.Filed, hfiled])
    exact ⟨e, he, hlists.names.trans (by decide +kernel)⟩
  · obtain ⟨c, hc⟩ := Except.isSome_toOption_iff.1
      (show (Model.readConstraint nameOfTwo (.operand (.var ⟨0⟩))
        [Model.comparatorText .ge, .var ⟨1⟩]).toOption.isSome = true by decide +kernel)
    have hlists := ((terms_in_order nameOfTwo).2 _ _ c hc).2 _ (.triple rfl rfl)
      (by simp [Assertion.operands, Formula.operands, Operand.Filed])
    exact ⟨c, hc, hlists.names.trans (by decide +kernel)⟩

end Milp
