import Milp.Proofs.Admission
import Milp.Proofs.Valuation

/-!
# What is added is what is serialized

A problem is worked on in calls: variables are registered, constraints are added in whatever form,
and variables change without changing their names. Every constraint that is accepted holds exactly
where what it states holds, a run of calls files these constraints one after the other, and the rows
of the message are these constraints again: `Model.message_correct`.

Names are texts and numbers are rationals here.
-/

namespace Milp

variable {δ : Type} {name : Var → String} {v : String → Rat}

/-! ### Constraints that hold -/

/-- The expression of the constraint is at most zero, or zero. -/
def Constraint.Holds (name : Var → String) (v : String → Rat) (c : Constraint String Rat) : Prop :=
  if c.isEquality then c.expression.value name v = 0 else c.expression.value name v ≤ 0

theorem Formula.Yields.keyed_eq {f : Formula (Operand String Rat)} {o : Operand String Rat}
    (h : f.Yields name o) {q : Rat} (hq : f.value (Operand.keyed name v) = some q) :
    o.keyed name v = q := by
  cases h with
  | operand o => exact Option.some.inj hq
  | read hb ha he => exact (Operand.keyed_lift he).trans (hb.keyed_eq ha hq)

/-- A comparison holds where its sides compare, whichever side is subtracted. -/
theorem Constraint.holds_compare_iff {left right : Operand String Rat} {s : Sense}
    {c : Constraint String Rat} (h : compare name left s right = .ok c)
    (hc : c.expression.Filed name) :
    c.Holds name v ↔ s.Holds (left.keyed name v) (right.keyed name v) := by
  obtain ⟨heq, he⟩ := compare_eq_ok h
  rw [Holds, heq, ← hc.keyed_eq v]
  cases s with
  | le =>
    rw [Operand.keyed_sub he]
    exact sub_nonpos
  | eq =>
    rw [Operand.keyed_sub he]
    exact sub_eq_zero
  | ge =>
    rw [Operand.keyed_sub he]
    exact sub_nonpos

namespace Model

section Read

variable {g : Given String Rat} {operands : List (Operand String Rat)}
  {c : Constraint String Rat} {a : Assertion (Operand String Rat)}

/-- A constraint files its terms under the names of their variables if its operands do. -/
theorem filed_readConstraint (h : readConstraint name g operands = .ok c)
    (ha : g.States name operands a) (ho : ∀ o ∈ a.operands, o.Filed name) :
    c.expression.Filed name := by
  refine Affine.filed_iff.2 fun key x hx => ?_
  obtain ⟨o, hmem, hx⟩ := exists_operand_of_readConstraint h ha hx
  exact (ho o hmem).name_eq hx

/-- **A constraint that is read holds where what is stated holds.** -/
theorem holds_readConstraint (h : readConstraint name g operands = .ok c)
    (ha : g.States name operands a) (ho : ∀ o ∈ a.operands, o.Filed name)
    (hd : a.Defined (Operand.value name v)) :
    a.Holds (Operand.value name v) ↔ c.Holds name v := by
  have hc := filed_readConstraint h ha ho
  obtain ⟨hl, hr⟩ := hd
  obtain ⟨x, hx⟩ := Option.isSome_iff_exists.1 hl
  obtain ⟨y, hy⟩ := Option.isSome_iff_exists.1 hr
  have hholds : a.Holds (Operand.value name v) ↔ a.sense.Holds x y := by
    simp [Assertion.Holds, hx, hy]
  rw [hholds]
  obtain rfl | ⟨l, r, hl, hr, hcompare⟩ := (readConstraint_eq_ok h).2 a ha
  · obtain rfl := Option.some.inj hx
    obtain rfl := Option.some.inj hy
    unfold Constraint.Holds Constraint.assertion
    cases c.isEquality <;> exact Iff.rfl
  · have hkeyed : ∀ o ∈ a.operands, o.value name v = o.keyed name v :=
      fun o hmem => ((ho o hmem).keyed_eq v).symm
    rw [Formula.value_congr fun o h => hkeyed o (List.mem_append_left _ h)] at hx
    rw [Formula.value_congr fun o h => hkeyed o (List.mem_append_right _ h)] at hy
    rw [Constraint.holds_compare_iff hcompare hc, hl.keyed_eq hx, hr.keyed_eq hy]

end Read

end Model

/-! ### The message -/

/-- The sum of the terms of a row. -/
def Row.value (v : String → Rat) (row : Row String Rat) : Rat :=
  (row.map fun t => t.2 * v t.1).sum

/-- **What a message asks for**: the sum of every row and its offset is at most zero, or zero. -/
def Message.Satisfied (v : String → Rat) (M : Message String Rat) : Prop :=
  List.Forall₂ (fun row offset => Row.value v row + offset ≤ 0) M.constraints
    M.constraintOffsets ∧
  List.Forall₂ (fun row offset => Row.value v row + offset = 0) M.equalities
    M.equalitiesOffsets

namespace Model

theorem row_eq (name : Var → String) (e : Affine String Rat) : row name e = .ok (e.terms name) := by
  refine (Except.mapM_eq_ok (g := id) (fun _ => rfl) _).trans ?_
  rw [List.map_id]

theorem offset_eq (e : Affine String Rat) : offset e = .ok e.constant := rfl

/-- The rows and offsets of a message are those of the constraints. -/
theorem serialize_eq_ok [Inhabited (Variable String δ)] {q : Inquiry δ Rat}
    {m : Model String δ Rat} {direction : Direction} {e : Affine String Rat}
    {options : Option (Options δ)} {M : Message String Rat}
    (h : m.serialize q direction e options = .ok M) :
    let inequalities := m.problem.constraints.filter (!·.isEquality)
    let equations := m.problem.constraints.filter (·.isEquality)
    M.constraints = inequalities.map (fun c => c.expression.terms m.store.name) ∧
    M.constraintOffsets = inequalities.map (fun c => c.expression.constant) ∧
    M.equalities = equations.map (fun c => c.expression.terms m.store.name) ∧
    M.equalitiesOffsets = equations.map (fun c => c.expression.constant) := by
  simp only [serialize, Except.bind_eq_ok_iff, Except.mapM_eq_ok (row_eq m.store.name),
    Except.mapM_eq_ok offset_eq, Except.ok.injEq] at h
  obtain ⟨columns, -, objective, -, objectiveOffset, -, rows, rfl, offsets, rfl, equalities, rfl,
    equalitiesOffsets, rfl, h⟩ := h
  simp only [List.map_map, Function.comp_def] at h
  split at h
  · obtain rfl := Except.ok.inj h
    exact ⟨rfl, rfl, rfl, rfl⟩
  · simp only [Except.bind_eq_ok_iff, Except.pure_eq_ok_iff] at h
    obtain ⟨d, -, verbose, -, rfl⟩ := h
    exact ⟨rfl, rfl, rfl, rfl⟩

theorem serialize_of_message [Inhabited (Variable String δ)] {q : Inquiry δ Rat}
    {m : Model String δ Rat} {direction : Direction} {objective : Operand String Rat}
    {options : Option (Options δ)} {M : Message String Rat}
    (h : m.message q direction objective options = .ok M) :
    ∃ e, m.serialize q direction e options = .ok M := by
  simp only [message, Except.bind_eq_ok_iff, Except.mapError_eq_ok_iff] at h
  obtain ⟨e, -, -, -, -, -, h⟩ := h
  exact ⟨e, h⟩

theorem value_terms_add (e : Affine String Rat) :
    Row.value v (e.terms name) + e.constant = e.value name v := by
  rw [add_comm, Affine.value, Row.value, Affine.terms, List.map_map]
  rfl

/-- **A message asks for the constraints of its problem.** -/
theorem satisfied_iff [Inhabited (Variable String δ)] {q : Inquiry δ Rat}
    {m : Model String δ Rat} {direction : Direction} {objective : Operand String Rat}
    {options : Option (Options δ)} {M : Message String Rat}
    (h : m.message q direction objective options = .ok M) :
    M.Satisfied v ↔ ∀ c ∈ m.problem.constraints, c.Holds m.store.name v := by
  obtain ⟨e, he⟩ := serialize_of_message h
  obtain ⟨h₁, h₂, h₃, h₄⟩ := serialize_eq_ok he
  rw [Message.Satisfied, h₁, h₂, h₃, h₄]
  simp only [List.forall₂_map_left_iff, List.forall₂_map_right_iff, List.forall₂_same,
    value_terms_add, List.mem_filter, Constraint.Holds]
  constructor
  · rintro ⟨hle, heq⟩ c hc
    split
    · next hs => exact heq c ⟨hc, hs⟩
    · next hs => exact hle c ⟨hc, by simpa using hs⟩
  · intro h
    refine ⟨fun c ⟨hc, hs⟩ => ?_, fun c ⟨hc, hs⟩ => ?_⟩
    · have hs' : c.isEquality = false := by simpa using hs
      simpa [hs'] using h c hc
    · simpa [hs] using h c hc

end Model

/-! ### Stores that grow -/

namespace Store

variable {ν : Type} {s s' s'' : Store ν δ}

/-- The variable has been made. -/
def Has (s : Store ν δ) (x : Var) : Prop := x.index < s.entries.size

variable [Inhabited (Variable ν δ)]

/-- Every variable of the store is in the other one, under the same name. -/
structure Extends (s s' : Store ν δ) : Prop where
  has : ∀ x, s.Has x → s'.Has x
  name : ∀ x, s.Has x → s'.name x = s.name x

theorem Extends.refl (s : Store ν δ) : s.Extends s := ⟨fun _ h => h, fun _ _ => rfl⟩

theorem Extends.trans (h : s.Extends s') (h' : s'.Extends s'') : s.Extends s'' :=
  ⟨fun x hx => h'.has x (h.has x hx),
    fun x hx => (h'.name x (h.has x hx)).trans (h.name x hx)⟩

theorem extends_push (s : Store ν δ) (v : Variable ν δ) : s.Extends (s.push v) := by
  refine ⟨fun x hx => ?_, fun x hx => ?_⟩
  · rw [Has, push, Array.size_push]
    exact Nat.lt_succ_of_lt hx
  · have hne : x ≠ s.fresh := by
      rintro rfl
      exact Nat.lt_irrefl _ hx
    rw [name, name, get_push_of_ne hne]

/-- A change that keeps the name of a variable. -/
theorem extends_modify (s : Store ν δ) (x : Var) {f : Variable ν δ → Variable ν δ}
    (hf : ∀ v, (f v).name = v.name) : s.Extends (s.modify x f) := by
  refine ⟨fun y hy => ?_, fun y hy => ?_⟩
  · rw [Has, modify, Array.size_modify]
    exact hy
  · by_cases hxy : y = x
    · subst hxy
      rw [name, get_modify_self hy, hf]
      rfl
    · rw [name, get_modify_of_ne hxy]
      rfl

end Store

/-! ### Operands of a store -/

variable [Inhabited (Variable String δ)] {s s' : Store String δ}

/-- The operand is made of variables of the store, each filed under its name. -/
def Operand.Sound (s : Store String δ) : Operand String Rat → Prop
  | var x => s.Has x
  | expression e => e.Filed s.name ∧ ∀ x ∈ e.vars, s.Has x
  | number _ | other _ => True

namespace Operand.Sound

variable {o : Operand String Rat}

theorem filed (h : o.Sound s) : o.Filed s.name := by
  cases o with
  | expression e => exact h.1
  | _ => trivial

theorem has (h : o.Sound s) {key : String} {x : Var} (hx : o.var? s.name key = some x) :
    s.Has x := by
  cases o with
  | var y =>
    simp only [var?] at hx
    split at hx
    · obtain rfl := Option.some.inj hx
      exact h
    · simp at hx
  | expression e => exact h.2 x (Affine.mem_vars_iff.2 ⟨key, hx⟩)
  | number n | other o => simp [var?] at hx

end Operand.Sound

theorem Affine.value_extends {e : Affine String Rat} (h : ∀ x ∈ e.vars, s.Has x)
    (hs : s.Extends s') : e.value s'.name v = e.value s.name v := by
  have hmap : (e.linear.terms.map fun t => t.factor * v (s'.name t.var)) =
      e.linear.terms.map fun t => t.factor * v (s.name t.var) :=
    List.map_congr_left fun t ht => by rw [hs.name t.var (h _ (List.mem_map_of_mem ht))]
  rw [value, value, hmap]

/-- The value of an operand does not change while the store grows. -/
theorem Operand.Sound.value_extends {o : Operand String Rat} (h : o.Sound s)
    (hs : s.Extends s') : o.value s'.name v = o.value s.name v := by
  cases o with
  | number n | other o => rfl
  | var x => rw [value, value, hs.name x h]
  | expression e => exact Affine.value_extends h.2 hs

/-! ### Calls -/

/-- The operands that are passed to a problem, those in a template included. -/
def Given.passed {ν α : Type} [BEq ν] (g : Given ν α) (operands : List (Operand ν α)) :
    List (Operand ν α) :=
  match g with
  | .source (.format _) => operands
  | .source (.template t) => t.operands
  | .source (.parts _ values) => values
  | .operand o => o :: operands
  | .constraint c => [.expression c.expression]

namespace Model

/-- What is done to a problem and to variables. A change, of the bounds of a variable for example,
keeps its name. -/
inductive Call (δ : Type) where
  | register (q : Inquiry δ Rat) (v : Variable String δ)
  | constraint (g : Given String Rat) (operands : List (Operand String Rat))
  | change (x : Var) (f : Variable String δ → Variable String δ) (keeps : ∀ v, (f v).name = v.name)

/-- What a constraint is given as is made of variables of the store. -/
def Call.Sound (s : Store String δ) : Call δ → Prop
  | constraint g operands => ∀ o ∈ g.passed operands, o.Sound s
  | register .. | change .. => True

/-- The state that an action leaves, whether it fails or not. -/
def left {ε τ : Type} : EStateM.Result ε (Model String δ Rat) τ → Model String δ Rat
  | .ok _ m | .error _ m => m

/-- The model after a call. -/
def act (m : Model String δ Rat) : Call δ → Model String δ Rat
  | .register q v => left ((addVariable q v).run m)
  | .constraint g operands => left ((addConstraint g operands).run m)
  | .change x f _ => { m with store := m.store.modify x f }

/-- The model after some calls. -/
def after (m : Model String δ Rat) (calls : List (Call δ)) : Model String δ Rat :=
  calls.foldl act m

/-- In every call the operands are made of variables that there are by then. -/
def SoundRun : Model String δ Rat → List (Call δ) → Prop
  | _, [] => True
  | m, c :: calls => c.Sound m.store ∧ SoundRun (m.act c) calls

/-- **These are the assertions that the accepted constraints of a run state**, one after the
other. -/
inductive Accepts : Model String δ Rat → List (Call δ) → List (Assertion (Operand String Rat)) →
    Prop
  | nil {m} : Accepts m [] []
  | register {m q v calls as} : Accepts (m.act (.register q v)) calls as →
      Accepts m (.register q v :: calls) as
  | change {m x f hf calls as} : Accepts (m.act (.change x f hf)) calls as →
      Accepts m (.change x f hf :: calls) as
  | refused {m g operands e m' calls as} : (addConstraint g operands).run m = .error e m' →
      Accepts m' calls as → Accepts m (.constraint g operands :: calls) as
  | accepted {m g operands c m' calls a as} : (addConstraint g operands).run m = .ok c m' →
      g.States m.store.name operands a → (∀ o ∈ a.operands, o.Sound m.store) →
      Accepts m' calls as → Accepts m (.constraint g operands :: calls) (a :: as)

/-- A variable is registered, or nothing happens. -/
theorem act_register (m : Model String δ Rat) (q : Inquiry δ Rat) (v : Variable String δ) :
    m.act (.register q v) = m ∨ m.act (.register q v) = ⟨m.store.push v,
      { m.problem with register := m.problem.register ++ [(v.name, m.store.fresh)] }⟩ := by
  rw [act, run_addVariable]
  dsimp only [Name.unfit?]
  split
  · exact .inl rfl
  · refine .inr ?_
    cases variableLine q v <;> rfl

section Constraint

variable {m m' : Model String δ Rat} {g : Given String Rat}
  {operands : List (Operand String Rat)} {c : Constraint String Rat}
  {a : Assertion (Operand String Rat)}

/-- The model after a constraint that is accepted. -/
theorem act_of_accepted (h : (addConstraint g operands).run m = .ok c m') :
    m.act (.constraint g operands) = m.append c := by
  obtain ⟨-, -, rfl⟩ := addConstraint_eq_ok h
  rw [act, h]
  rfl

/-- The model after a constraint that is refused. -/
theorem act_of_refused {e : ProblemError String Rat}
    (h : (addConstraint g operands).run m = .error e m') :
    m.act (.constraint g operands) = m := by
  obtain rfl := addConstraint_eq_error h
  rw [act, h]
  rfl

/-- The constraint holds where the assertion holds, if no divisor is zero. -/
def Matches (s : Store String δ) (a : Assertion (Operand String Rat))
    (c : Constraint String Rat) : Prop :=
  ∀ v, a.Defined (Operand.value s.name v) →
    (a.Holds (Operand.value s.name v) ↔ c.Holds s.name v)

/-- **What is added matches what is stated**, also when the store has grown. -/
theorem matches_of_accepted (h : readConstraint m.store.name g operands = .ok c)
    (ha : g.States m.store.name operands a) (ho : ∀ o ∈ a.operands, o.Sound m.store)
    (hs : m.store.Extends s) : Matches s a c := by
  intro v hd
  have hvalue : ∀ o ∈ a.operands, o.value s.name v = o.value m.store.name v :=
    fun o hmem => (ho o hmem).value_extends hs
  have hvars : ∀ x ∈ c.expression.vars, m.store.Has x := by
    intro x hx
    obtain ⟨key, hx⟩ := Affine.mem_vars_iff.1 hx
    obtain ⟨o, hmem, hx⟩ := exists_operand_of_readConstraint h ha hx
    exact (ho o hmem).has hx
  have hc : c.Holds s.name v ↔ c.Holds m.store.name v := by
    rw [Constraint.Holds, Constraint.Holds, Affine.value_extends hvars hs]
  rw [Assertion.defined_congr hvalue] at hd
  rw [Assertion.holds_congr hvalue, hc]
  exact holds_readConstraint h ha (fun o hmem => (ho o hmem).filed) hd

end Constraint

theorem store_extends_act (m : Model String δ Rat) (c : Call δ) :
    m.store.Extends (m.act c).store := by
  cases c with
  | register q v =>
    obtain h | h := act_register m q v
    · rw [h]
      exact .refl _
    · rw [h]
      exact m.store.extends_push v
  | constraint g operands =>
    cases h : (addConstraint g operands).run m with
    | ok c m' =>
      rw [act_of_accepted h]
      exact .refl _
    | error e m' =>
      rw [act_of_refused h]
      exact .refl _
  | change x f hf => exact m.store.extends_modify x hf

theorem store_extends_after (m : Model String δ Rat) (calls : List (Call δ)) :
    m.store.Extends (m.after calls).store := by
  induction calls generalizing m with
  | nil => exact .refl _
  | cons c calls ih => exact (store_extends_act m c).trans (ih (m.act c))

/-- **A run files what it accepts**: the constraints after it are the ones before it and then, one
after the other, constraints that match the assertions. -/
theorem Accepts.constraints_eq {m : Model String δ Rat} {calls : List (Call δ)}
    {as : List (Assertion (Operand String Rat))} (h : Accepts m calls as) :
    ∃ cs, (m.after calls).problem.constraints = m.problem.constraints ++ cs ∧
      List.Forall₂ (Matches (m.after calls).store) as cs := by
  induction h with
  | nil => exact ⟨[], (List.append_nil _).symm, .nil⟩
  | @register m q v calls as _ ih =>
    obtain ⟨cs, hcs, hall⟩ := ih
    refine ⟨cs, hcs.trans ?_, hall⟩
    obtain h | h := act_register m q v <;> rw [h]
  | change _ ih => exact ih
  | refused hrun _ ih =>
    rw [after, List.foldl_cons, act_of_refused hrun]
    obtain rfl := addConstraint_eq_error hrun
    exact ih
  | @accepted m g operands c m' calls a as hrun ha ho _ ih =>
    rw [after, List.foldl_cons, act_of_accepted hrun]
    obtain ⟨hread, -, rfl⟩ := addConstraint_eq_ok hrun
    obtain ⟨cs, hcs, hall⟩ := ih
    refine ⟨c :: cs, hcs.trans (List.append_assoc ..), .cons ?_ hall⟩
    exact matches_of_accepted hread ha ho (store_extends_after (m.append c) calls)

/-! ### Runs state something -/

/-- The operands of the template of a source are the ones that were passed. -/
theorem operands_toTemplate {ν α : Type} [BEq ν] {s : Source (Operand ν α)}
    {operands : List (Operand ν α)} {t : Template (Operand ν α)}
    (h : s.toTemplate operands = .ok t) : t.operands = (Given.source s).passed operands := by
  cases s with
  | format s => exact Template.operands_ofParts? (Except.mapError_eq_ok_iff.1 h)
  | template t' =>
    simp only [Source.toTemplate] at h
    split at h
    · obtain rfl := Except.ok.inj h
      rfl
    · simp at h
  | parts segments values =>
    simp only [Source.toTemplate] at h
    split at h
    · exact Template.operands_ofParts? (Except.mapError_eq_ok_iff.1 h)
    · simp at h

/-- What is read states something that is made of numbers and of what was passed. -/
theorem exists_assertion_of_passed {ν α : Type} [Name ν] [Scalar α] {name : Var → ν}
    {P : Operand ν α → Prop} (hnumber : ∀ n, P (.number n)) {g : Given ν α}
    {operands : List (Operand ν α)} {c : Constraint ν α}
    (h : readConstraint name g operands = .ok c) (ho : ∀ o ∈ g.passed operands, P o) :
    ∃ a, g.States name operands a ∧ ∀ o ∈ a.operands, P o := by
  obtain ⟨⟨a, ha⟩, -⟩ := readConstraint_eq_ok h
  cases ha with
  | source ht has =>
    refine ⟨a, .source ht has, fun o hmem => ho o ?_⟩
    rwa [← operands_toTemplate ht, ← has.operands_eq]
  | triple ht hs =>
    refine ⟨_, .triple ht hs, fun o hmem => ho o ?_⟩
    simp only [Assertion.operands, Formula.operands, List.cons_append, List.nil_append,
      List.mem_cons, List.not_mem_nil, or_false] at hmem
    obtain rfl | rfl := hmem
    · exact List.mem_cons_self
    · simp [Given.passed]
  | @built c | normal c =>
    refine ⟨_, .normal c, fun o hmem => ?_⟩
    simp only [Constraint.assertion, Assertion.operands, Formula.operands, List.cons_append,
      List.nil_append, List.mem_cons, List.not_mem_nil, or_false] at hmem
    obtain rfl | rfl := hmem
    · exact ho _ List.mem_cons_self
    · exact hnumber _

theorem exists_accepts {m : Model String δ Rat} {calls : List (Call δ)} (h : m.SoundRun calls) :
    ∃ as, Accepts m calls as := by
  induction calls generalizing m with
  | nil => exact ⟨[], .nil⟩
  | cons call calls ih =>
    obtain ⟨as, has⟩ := ih h.2
    cases call with
    | register q v => exact ⟨as, .register has⟩
    | change x f hf => exact ⟨as, .change has⟩
    | constraint g operands =>
      rw [act] at has
      cases hrun : (addConstraint g operands).run m with
      | error e m' =>
        rw [hrun] at has
        exact ⟨as, .refused hrun has⟩
      | ok c m' =>
        rw [hrun] at has
        obtain ⟨a, ha, ho⟩ := exists_assertion_of_passed (P := Operand.Sound m.store)
          (fun _ => trivial) (addConstraint_eq_ok hrun).1 h.1
        exact ⟨a :: as, .accepted hrun ha ho has⟩

/-- **What is added is what is serialized**: whatever the accepted constraints of a run state, the
message after the run asks for it and for nothing else, at all values with which no divisor is
zero. -/
theorem message_correct {m : Model String δ Rat} {calls : List (Call δ)}
    (h₀ : m.problem.constraints = []) (hcalls : m.SoundRun calls) {q : Inquiry δ Rat}
    {direction : Direction} {objective : Operand String Rat} {options : Option (Options δ)}
    {M : Message String Rat}
    (hM : (m.after calls).message q direction objective options = .ok M) :
    (∃ as, Accepts m calls as) ∧ ∀ as, Accepts m calls as → ∀ v,
      (∀ a ∈ as, a.Defined (Operand.value (m.after calls).store.name v)) →
      ((∀ a ∈ as, a.Holds (Operand.value (m.after calls).store.name v)) ↔ M.Satisfied v) := by
  refine ⟨exists_accepts hcalls, fun as has v hd => ?_⟩
  obtain ⟨cs, hcs, hall⟩ := has.constraints_eq
  rw [satisfied_iff hM, hcs, h₀, List.nil_append]
  clear hcs has
  induction hall with
  | nil => simp
  | cons hac _ ih =>
    rw [List.forall_mem_cons] at hd
    rw [List.forall_mem_cons, List.forall_mem_cons, hac v hd.1, ih hd.2]

/-- A problem without variables, and no other variables. -/
def blank : Model String (Datum Rat) Rat := ⟨.empty, .empty⟩

/-- Plain data, among which no number is read from a text. -/
def plainInquiry : Inquiry (Datum Rat) Rat := Datum.inquiry fun _ => none

/-- Registers a variable `x`. -/
def newX : Call (Datum Rat) := .register plainInquiry ⟨"x", .null, .null, .null, .null, .null⟩

/-- The constraint `x >= 2` on a new variable, which gets a bound after that. -/
def atLeastTwo : List (Call (Datum Rat)) :=
  [newX, .constraint (.operand (.var ⟨0⟩)) [comparatorText .ge, .number 2],
    .change ⟨0⟩ (fun v => v.bounds .null (.number 5)) fun _ => rfl]

theorem message_atLeastTwo : ∃ M, (blank.after atLeastTwo).message plainInquiry .minimize
    (.var ⟨0⟩) none = .ok M ∧ M.Satisfied fun _ => 3 := by
  have hok : ((blank.after atLeastTwo).message plainInquiry .minimize
      (.var ⟨0⟩) none).toOption.isSome := by decide +kernel
  have hx : (Operand.var ⟨0⟩).Sound (blank.act newX).store :=
    show 0 < (blank.act newX).store.entries.size by decide +kernel
  have hcalls : blank.SoundRun atLeastTwo := by
    refine ⟨trivial, ?_, trivial, trivial⟩
    simp only [Call.Sound, Given.passed, List.forall_mem_cons]
    exact ⟨hx, trivial, trivial, by simp⟩
  obtain ⟨c, m, hadd⟩ : ∃ c m, (addConstraint (.operand (.var ⟨0⟩))
      [comparatorText .ge, .number 2]).run (blank.act newX) = .ok c m := by
    rw [run_addConstraint]
    exact ⟨_, _, rfl⟩
  have has : Accepts blank atLeastTwo [⟨.operand (.var ⟨0⟩), .ge, .operand (.number 2)⟩] := by
    refine .register (.accepted hadd (.triple rfl rfl) ?_ (.change .nil))
    simp only [Assertion.operands, Formula.operands, List.cons_append, List.nil_append,
      List.forall_mem_cons]
    exact ⟨hx, trivial, by simp⟩
  cases hM : (blank.after atLeastTwo).message plainInquiry .minimize (.var ⟨0⟩) none with
  | error e => simp [hM, Except.toOption] at hok
  | ok M =>
    refine ⟨M, rfl, ((message_correct rfl hcalls hM).2 _ has (fun _ => 3) ?_).1 ?_⟩
    · simp [Assertion.Defined, Formula.value]
    · rw [List.forall_mem_singleton]
      exact ⟨3, rfl, 2, rfl, show (2 : Rat) ≤ 3 by decide⟩

end Model

end Milp
