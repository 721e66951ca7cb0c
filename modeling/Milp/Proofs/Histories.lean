import Milp.Proofs.Reaching
import Milp.Proofs.Rendering

/-!
# Problems with a history

A problem is worked on in events: variables are asked for, and made unless there is one of the name
already; constraints are added or refused; variables get other bounds; the problem is solved. The
history of a run says which variables were asked for and which constraints were added, and the
problem is what its history says: `Run.records`. All its variables and constraints stay in order
through every event, `Kept.event`, and so the problem can always be sent for an objective with
variables of its own, as a message in which everything has its place: `Run.message`.

Names are texts here, data are plain and numbers are those of the program.
-/

namespace Milp

/-! ### Bounds -/

/-- Nothing, or a number that fits a double. -/
def Datum.IsBound : Datum Number → Prop
  | .null => True
  | .number n => n.Fits
  | _ => False

/-- The bounds and the starting value are numbers that fit, as far as there are any. -/
structure Variable.IsBounded (v : Variable String (Datum Number)) : Prop where
  min : v.min.IsBound
  max : v.max.IsBound
  initial : v.initial.IsBound

/-- A problem whose variables have plain data. -/
abbrev PlainModel := Model String (Datum Number) Number

variable {ofText : String → Option Number}

variable (ofText) in
theorem Datum.IsBound.measure? {d : Datum Number} (h : d.IsBound) :
    ∃ x?, (Datum.inquiry ofText).measure? d = .ok x? := by
  cases d with
  | null => exact ⟨none, rfl⟩
  | number n =>
    obtain ⟨x, hx⟩ := h
    refine ⟨some (.double x), ?_⟩
    simp [Inquiry.measure?, inquiry, Datum.isNull, Datum.measure, Scalar.measure, hx]
  | _ => exact h.elim

variable (ofText) in
theorem Variable.IsBounded.column {v : Variable String (Datum Number)} (h : v.IsBounded) :
    ∃ c, Model.column (Datum.inquiry ofText) v = .ok c := by
  obtain ⟨x, hx⟩ := h.min.measure? ofText
  obtain ⟨y, hy⟩ := h.max.measure? ofText
  obtain ⟨z, hz⟩ := h.initial.measure? ofText
  simp only [Model.column, hx, hy, hz]
  exact ⟨_, rfl⟩

namespace Model

/-! ### Events -/

/-- What a history records: that a variable was asked for, and whether one was made then, or that a
constraint was added. -/
inductive Entry where
  | asked (name : String) (made? : Option Var)
  | added (c : Constraint String Number)

namespace Entry

/-- The name that was asked for. -/
def asked? : Entry → Option String
  | asked name _ => some name
  | added _ => none

/-- The variable that was made, under its name. -/
def made? : Entry → Option (String × Var)
  | asked name x? => x?.map fun x => (name, x)
  | added _ => none

def added? : Entry → Option (Constraint String Number)
  | asked .. => none
  | added c => some c

end Entry

/-- **What happens to a problem**, and what its history records of it. Constraints are given as the
algebra builds them, and what a constraint without variables comes to fits a double. Variables may
be changed in all but their names, and get bounds that fit. -/
inductive Event : PlainModel → List Entry → PlainModel → Prop
  | made {m m' : PlainModel} {ofText v x} : v.IsBounded →
      (addVariable (Datum.inquiry ofText) v).run m = .ok x m' → Event m [.asked v.name (some x)] m'
  | notMade {m m' : PlainModel} {ofText v e} :
      (addVariable (Datum.inquiry ofText) v).run m = .error e m' → Event m [.asked v.name none] m'
  | added {m m' : PlainModel} {g operands c} : (∀ o ∈ g.passed operands, o.Built m.store) →
      (addConstraint g operands).run m = .ok c m' →
      (c.expression.vars = [] → c.expression.constant.Fits) → Event m [.added c] m'
  | refused {m m' : PlainModel} {g operands e} : (addConstraint g operands).run m = .error e m' →
      Event m [] m'
  | solved {m : PlainModel} {σ ε : Type} (view : σ → DataView String (Datum Number) Number)
      (solver : Solver String (Datum Number) Number σ ε) (direction g operands options s) :
      Event m [] (endState ((solve view solver direction g operands options).run (m, s))).1
  | free {m : PlainModel} (v) : Event m [] { m with store := m.store.push v }
  | changed {m : PlainModel} (x) {f : Variable String (Datum Number) → _} :
      (∀ v, (f v).name = v.name) → (∀ v, v.IsBounded → (f v).IsBounded) →
      Event m [] { m with store := m.store.modify x f }

/-- **A run of events**, and its history. -/
inductive Run : PlainModel → List Entry → PlainModel → Prop
  | nil {m : PlainModel} : Run m [] m
  | snoc {m m' m'' : PlainModel} {h h'} : Run m h m' → Event m' h' m'' → Run m (h ++ h') m''

variable {m m' m'' : PlainModel} {h h' : List Entry}

/-! ### What is recorded -/

/-- **The problem is what its history says**: the register has the variables that were made, their
names are the ones that were asked for, each where it was asked for first, and the constraints are
the ones that were added. -/
structure Records (m : PlainModel) (h : List Entry) : Prop where
  register : m.problem.register = h.filterMap Entry.made?
  names : m.problem.names = (h.filterMap Entry.asked?).eraseDups
  constraints : m.problem.constraints = h.filterMap Entry.added?

/-- A variable is made unless there is one of the name. -/
theorem run_addVariable_datum (v : Variable String (Datum Number)) :
    (addVariable (Datum.inquiry ofText) v).run m =
      if (m.problem.find? v.name).isSome then .error (.duplicate v.name) m
      else .ok m.store.fresh (m.enroll v) := by
  rw [run_addVariable]
  rfl

theorem addVariable_eq_ok {v : Variable String (Datum Number)} {x : Var}
    (h : (addVariable (Datum.inquiry ofText) v).run m = .ok x m') :
    m.problem.find? v.name = none ∧ x = m.store.fresh ∧ m' = ⟨m.store.push v,
      { m.problem with register := m.problem.register ++ [(v.name, m.store.fresh)] }⟩ := by
  rw [run_addVariable_datum] at h
  split at h
  · simp at h
  · next hnew =>
    obtain ⟨rfl, rfl⟩ := EStateM.Result.ok.inj h
    exact ⟨by simpa using hnew, rfl, rfl⟩

theorem addVariable_eq_error {v : Variable String (Datum Number)} {e : ProblemError String Number}
    (h : (addVariable (Datum.inquiry ofText) v).run m = .error e m') :
    (m.problem.find? v.name).isSome ∧ m' = m := by
  rw [run_addVariable_datum] at h
  split at h
  · next hold => exact ⟨hold, (EStateM.Result.error.inj h).2.symm⟩
  · simp at h

/-- A name has a variable exactly if it is one of the names. -/
theorem isSome_find?_iff {p : Problem String Number} {n : String} :
    (p.find? n).isSome ↔ n ∈ p.names := by
  constructor
  · intro h
    obtain ⟨x, hx⟩ := Option.isSome_iff_exists.1 h
    obtain ⟨l₁, l₂, hl, -⟩ := List.lookup_eq_some_iff.1 hx
    rw [Problem.names, hl, List.map_append]
    exact List.mem_append_right _ List.mem_cons_self
  · intro h
    by_contra hnone
    obtain ⟨r, hr, rfl⟩ := List.mem_map.1 h
    rw [Bool.not_eq_true, Option.isSome_eq_false_iff, Option.isNone_iff_eq_none] at hnone
    have hne := List.lookup_eq_none_iff.1 hnone r hr
    simp at hne

theorem records_empty (s : Store String (Datum Number)) : Records ⟨s, .empty⟩ [] :=
  ⟨rfl, rfl, rfl⟩

/-- What is asked for once more comes to nothing among names that are all different. -/
theorem eraseDups_concat_of_mem {ns : List String} {n : String} (h : n ∈ ns) :
    (ns ++ [n]).eraseDups = ns.eraseDups := by
  have hold : [n].removeAll ns = [] := by simp [List.removeAll, h]
  rw [List.eraseDups_append, hold, List.eraseDups_nil, List.append_nil]

theorem eraseDups_concat_of_notMem {ns : List String} {n : String} (h : n ∉ ns) :
    (ns ++ [n]).eraseDups = ns.eraseDups ++ [n] := by
  have hnew : [n].removeAll ns = [n] := by simp [List.removeAll, h]
  rw [List.eraseDups_append, hnew]
  rfl

/-- What an event records, part by part. -/
theorem Records.append (hm : m.Records h)
    (hregister : m'.problem.register = m.problem.register ++ h'.filterMap Entry.made?)
    (hnames : m'.problem.names = (h.filterMap Entry.asked? ++ h'.filterMap Entry.asked?).eraseDups)
    (hconstraints : m'.problem.constraints =
      m.problem.constraints ++ h'.filterMap Entry.added?) : m'.Records (h ++ h') := by
  constructor
  · rw [hregister, hm.register, List.filterMap_append]
  · rw [hnames, List.filterMap_append]
  · rw [hconstraints, hm.constraints, List.filterMap_append]

theorem Records.of_problem_eq (hm : m.Records h) (hp : m'.problem = m.problem) :
    m'.Records (h ++ []) := by
  refine hm.append ?_ ?_ ?_
  · rw [hp]
    exact (List.append_nil _).symm
  · rw [hp]
    exact hm.names.trans (congrArg List.eraseDups (List.append_nil _).symm)
  · rw [hp]
    exact (List.append_nil _).symm

/-- **Every event is recorded.** -/
theorem Records.event (hm : m.Records h) (hregistered : m.Registered) (he : Event m h' m') :
    m'.Records (h ++ h') := by
  cases he with
  | @made _ _ v x _ hrun =>
    obtain ⟨hnew, rfl, rfl⟩ := addVariable_eq_ok hrun
    have hname : v.name ∉ h.filterMap Entry.asked? := by
      rw [← List.mem_eraseDups, ← hm.names, ← isSome_find?_iff, hnew]
      simp
    refine hm.append rfl ?_ (List.append_nil _).symm
    refine Eq.trans ?_ (eraseDups_concat_of_notMem hname).symm
    rw [Problem.names, List.map_append, ← hm.names]
    rfl
  | @notMade _ _ v e hrun =>
    obtain ⟨hold, rfl⟩ := addVariable_eq_error hrun
    have hname : v.name ∈ h.filterMap Entry.asked? := by
      rwa [← List.mem_eraseDups, ← hm.names, ← isSome_find?_iff]
    refine hm.append (List.append_nil _).symm ?_ (List.append_nil _).symm
    exact hm.names.trans (eraseDups_concat_of_mem hname).symm
  | added _ hrun _ =>
    obtain ⟨-, -, rfl⟩ := addConstraint_eq_ok hrun
    refine hm.append (List.append_nil _).symm ?_ rfl
    exact hm.names.trans (congrArg List.eraseDups (List.append_nil _).symm)
  | refused hrun => exact hm.of_problem_eq (congrArg Model.problem (addConstraint_eq_error hrun))
  | solved view solver direction g operands options s =>
    exact hm.of_problem_eq (hregistered.solve_leaves view solver direction g operands options s).1
  | free v => exact hm.of_problem_eq rfl
  | changed x _ _ => exact hm.of_problem_eq rfl

/-! ### What is kept -/

/-- **What every event keeps**: the register is one, its variables have bounds that fit, and every
constraint is built from variables of the register. -/
structure Kept (m : PlainModel) : Prop where
  registered : m.Registered
  bounded : ∀ x ∈ m.problem.vars, (m.store.get x).IsBounded
  built : ∀ c ∈ m.problem.constraints, c.expression.Built m.store
  fits : ∀ c ∈ m.problem.constraints, c.expression.vars = [] → c.expression.constant.Fits
  known : ∀ c ∈ m.problem.constraints, ∀ x ∈ c.expression.vars, x ∈ m.problem.vars

theorem kept_empty (s : Store String (Datum Number)) : Kept ⟨s, .empty⟩ :=
  ⟨registered_empty s, fun _ h => absurd h List.not_mem_nil, fun _ h => absurd h List.not_mem_nil,
    fun _ h => absurd h List.not_mem_nil, fun _ h => absurd h List.not_mem_nil⟩

/-- What is done to the problem is one of the steps that keep its register. -/
theorem Event.step (he : Event m h m') : Step m m' := by
  cases he with
  | @made _ ofText v x _ hrun | @notMade _ ofText v e hrun =>
    have hstep := Step.register m (Datum.inquiry ofText) v
    rwa [hrun] at hstep
  | @added _ g operands c _ hrun _ | @refused _ g operands e hrun =>
    have hstep := Step.constraint m g operands
    rwa [hrun] at hstep
  | solved view solver direction g operands options s =>
    exact .solve m view solver direction g operands options s
  | free v => exact .make m v
  | changed x hname _ => exact .change m x _ fun _ => hname

namespace Kept

theorem has (hm : m.Kept) {x : Var} (hx : x ∈ m.problem.vars) : m.store.Has x := by
  obtain ⟨r, hr, rfl⟩ := List.mem_map.1 hx
  exact hm.registered.has r hr

/-- A problem to which nothing is done, while the store grows and bounds keep fitting. -/
theorem of_extends (hm : m.Kept) (hregistered : m'.Registered) (hp : m'.problem = m.problem)
    (hs : m.store.Extends m'.store) (hbounded : ∀ x ∈ m.problem.vars,
      (m.store.get x).IsBounded → (m'.store.get x).IsBounded) : m'.Kept := by
  refine ⟨hregistered, ?_, ?_, ?_, ?_⟩
  · rw [hp]
    exact fun x hx => hbounded x hx (hm.bounded x hx)
  · rw [hp]
    exact fun c hc => (hm.built c hc).extends_store hs
  · rw [hp]
    exact hm.fits
  · rw [hp]
    exact hm.known

/-- One more variable. -/
theorem push (hm : m.Kept) {v : Variable String (Datum Number)} (hv : v.IsBounded)
    (hregistered : (⟨m.store.push v, { m.problem with
      register := m.problem.register ++ [(v.name, m.store.fresh)] }⟩ : PlainModel).Registered) :
    Kept ⟨m.store.push v, { m.problem with
      register := m.problem.register ++ [(v.name, m.store.fresh)] }⟩ := by
  refine ⟨hregistered, ?_, fun c hc => (hm.built c hc).extends_store (m.store.extends_push v),
    hm.fits, ?_⟩
  · rw [Problem.vars, List.map_append, List.forall_mem_append]
    refine ⟨fun x hx => ?_, ?_⟩
    · have hne : x ≠ m.store.fresh := by
        rintro rfl
        exact Nat.lt_irrefl _ (hm.has hx)
      rw [Store.get_push_of_ne hne]
      exact hm.bounded x hx
    · rw [List.map_singleton, List.forall_mem_singleton, Store.get_push_fresh]
      exact hv
  · intro c hc x hx
    rw [Problem.vars, List.map_append]
    exact List.mem_append_left _ (hm.known c hc x hx)

/-- One more constraint, on variables of the register. -/
theorem append (hm : m.Kept) {c : Constraint String Number} (hb : c.expression.Built m.store)
    (hf : c.expression.vars = [] → c.expression.constant.Fits)
    (hk : ∀ x ∈ c.expression.vars, x ∈ m.problem.vars) : (m.append c).Kept := by
  refine ⟨hm.registered.of_extends rfl (.refl _), hm.bounded, ?_, ?_, ?_⟩
  · exact List.forall_mem_append.2 ⟨hm.built, List.forall_mem_singleton.2 hb⟩
  · exact List.forall_mem_append.2 ⟨hm.fits, List.forall_mem_singleton.2 hf⟩
  · exact List.forall_mem_append.2 ⟨hm.known, List.forall_mem_singleton.2 hk⟩

/-- **Every event keeps a problem in order.** -/
theorem event (hm : m.Kept) (he : Event m h m') : m'.Kept := by
  have hregistered := hm.registered.step he.step
  cases he with
  | made hv hrun =>
    obtain ⟨-, -, rfl⟩ := addVariable_eq_ok hrun
    exact hm.push hv hregistered
  | notMade hrun =>
    obtain ⟨-, rfl⟩ := addVariable_eq_error hrun
    exact hm
  | added ho hrun hf =>
    obtain ⟨hread, hcheck, rfl⟩ := addConstraint_eq_ok hrun
    exact hm.append (built_readConstraint hread ho) hf
      (hm.registered.admits_iff.1 (Problem.check_eq_ok_iff.1 hcheck))
  | refused hrun =>
    obtain rfl := addConstraint_eq_error hrun
    exact hm
  | solved view solver direction g operands options s =>
    obtain ⟨hp, hs⟩ :=
      hm.registered.solve_leaves view solver direction g operands options s
    refine hm.of_extends hregistered hp hs.toExtends fun x hx hb => ?_
    rw [hs.value x hx]
    exact ⟨hb.min, hb.max, hb.initial⟩
  | free v =>
    refine hm.of_extends hregistered rfl (m.store.extends_push v) fun x hx hb => ?_
    have hne : x ≠ m.store.fresh := by
      rintro rfl
      exact Nat.lt_irrefl _ (hm.has hx)
    rwa [Store.get_push_of_ne hne]
  | changed y hname hbounds =>
    refine hm.of_extends hregistered rfl (m.store.extends_modify y hname) fun x hx hb => ?_
    by_cases hxy : x = y
    · subst hxy
      rw [Store.get_modify_self (hm.has hx)]
      exact hbounds _ hb
    · rwa [Store.get_modify_of_ne hxy]

end Kept

/-! ### Messages that can be made -/

variable {e : Affine String Number} {direction : Direction} {options : Option (Options (Datum Number))}

theorem exists_row (name : Var → String) (h : ∀ t ∈ e.linear.terms, t.factor.Fits) :
    ∃ r, row name e = .ok r := by
  have hterm : ∀ t ∈ e.linear.terms, ∃ r : String × Number,
      (do return (name t.var, ← (Scalar.measure t.factor).mapError DatumError.scalar)) =
        Except.ok r := by
    intro t ht
    obtain ⟨x, hx⟩ := h t ht
    exact ⟨(name t.var, .double x), by simp [Scalar.measure, hx]⟩
  obtain ⟨r, hr⟩ := exists_forall₂ hterm
  refine ⟨r, Except.mapM_eq_ok_iff.2 ?_⟩
  rwa [Affine.terms, List.forall₂_map_left_iff]

theorem exists_offset (h : e.constant.Fits) : ∃ a, offset e = .ok a := by
  obtain ⟨x, hx⟩ := h
  exact ⟨.double x, by simp [offset, Scalar.measure, hx]⟩

variable (ofText direction) in
/-- **A problem in order can be sent**, for an objective of numbers that fit. -/
theorem Kept.exists_message (hm : m.Kept) (he : e.Built m.store)
    (hfits : e.vars = [] → e.constant.Fits)
    (hoptions : ∀ o ∈ options, ∃ d, o.get "verbose" = .ok d) :
    ∃ M, m.serialize (Datum.inquiry ofText) direction e options = .ok M := by
  have hmeasured : ∀ c ∈ m.problem.constraints, (∀ t ∈ c.expression.linear.terms, t.factor.Fits) ∧
      c.expression.constant.Fits := fun c hc => (hm.built c hc).measured (hm.fits c hc)
  have hrows : ∀ p : Constraint String Number → Bool, ∃ rows, List.Forall₂
      (fun c r => row m.store.name c.expression = .ok r) (m.problem.constraints.filter p) rows :=
    fun p => exists_forall₂ fun c hc => exists_row m.store.name (hmeasured c (List.mem_filter.1 hc).1).1
  have hoffsets : ∀ p : Constraint String Number → Bool, ∃ as, List.Forall₂
      (fun c a => offset c.expression = .ok a) (m.problem.constraints.filter p) as :=
    fun p => exists_forall₂ fun c hc => exists_offset (hmeasured c (List.mem_filter.1 hc).1).2
  have hcolumn : ∀ x ∈ m.problem.vars, ∃ c, column (Datum.inquiry ofText) (m.store.get x) = .ok c :=
    fun x hx => (hm.bounded x hx).column ofText
  obtain ⟨columns, hcolumns⟩ := exists_forall₂ hcolumn
  obtain ⟨objective, hobjective⟩ := exists_row m.store.name (he.measured hfits).1
  obtain ⟨objectiveOffset, hobjectiveOffset⟩ := exists_offset (he.measured hfits).2
  obtain ⟨constraints, hconstraints⟩ := hrows (!·.isEquality)
  obtain ⟨constraintOffsets, hconstraintOffsets⟩ := hoffsets (!·.isEquality)
  obtain ⟨equalities, hequalities⟩ := hrows (·.isEquality)
  obtain ⟨equalitiesOffsets, hequalitiesOffsets⟩ := hoffsets (·.isEquality)
  obtain ⟨verbose, hverbose⟩ : ∃ b, Verbose (Datum.inquiry ofText) b options := by
    cases options with
    | none => exact ⟨false, rfl⟩
    | some o =>
      obtain ⟨d, hd⟩ := hoptions o rfl
      exact ⟨d.truth, d, hd, rfl⟩
  exact ⟨⟨direction, columns, objective, objectiveOffset, constraints, constraintOffsets, equalities,
    equalitiesOffsets, verbose⟩, serialize_eq_ok_iff.2 ⟨⟨hcolumns, hobjective, hobjectiveOffset,
      hconstraints, hconstraintOffsets, hequalities, hequalitiesOffsets⟩, rfl, hverbose⟩⟩

variable (ofText direction) in
/-- **When an objective is refused**: if it mentions a variable that is not of the register. Any
other one is sent, in a message that is in order. -/
theorem Kept.message (hm : m.Kept) {o : Operand String Number} (ho : o.Built m.store)
    (he : o.lift m.store.name = .ok e) (hfits : e.vars = [] → e.constant.Fits)
    (hoptions : ∀ o ∈ options, ∃ d, o.get "verbose" = .ok d) :
    ((∃ x ∈ e.vars, x ∉ m.problem.vars) →
      ∃ n, m.message (Datum.inquiry ofText) direction o options = .error (.foreignVariable n)) ∧
    ((∀ x ∈ e.vars, x ∈ m.problem.vars) →
      ∃ M, m.message (Datum.inquiry ofText) direction o options = .ok M ∧ M.direction = direction ∧
        M.InOrder (Datum.inquiry ofText) m e) := by
  have hbuilt := ho.lift he
  constructor
  · rintro ⟨x, hx, hnot⟩
    obtain ⟨hadmits, -⟩ | ⟨-, n, hcheck⟩ := m.problem.check_eq m.store.name e
    · exact absurd (hm.registered.admits_iff.1 hadmits x hx) hnot
    · refine ⟨n, ?_⟩
      simp only [Model.message, he, Except.mapError_ok, Except.ok_bind, hcheck]
      rfl
  · intro hknown
    obtain ⟨M, hM⟩ := hm.exists_message ofText direction hbuilt hfits hoptions
    obtain ⟨hrenders, hdirection, -⟩ := serialize_eq_ok_iff.1 hM
    refine ⟨M, ?_, hdirection, hrenders.inOrder hm.registered hknown hm.known hbuilt.filed
      fun c hc => (hm.built c hc).filed⟩
    have hcheck : m.problem.check m.store.name e = .ok () :=
      Problem.check_eq_ok_iff.2 (hm.registered.admits_iff.2 hknown)
    have hchecks : (m.problem.constraints.forM fun c =>
        m.problem.check m.store.name c.expression) = .ok () :=
      Problem.forM_check_eq_ok_iff.2 fun c hc => hm.registered.admits_iff.2 (hm.known c hc)
    simp only [Model.message, he, Except.mapError_ok, Except.ok_bind, hcheck, hchecks, hM]

/-! ### Runs -/

namespace Run

theorem trans (hrun : Run m h m') (hrun' : Run m' h' m'') : Run m (h ++ h') m'' := by
  induction hrun' with
  | nil => rwa [List.append_nil]
  | snoc _ he ih =>
    rw [← List.append_assoc]
    exact .snoc ih he

theorem kept (hrun : Run m h m') (hm : m.Kept) : m'.Kept := by
  induction hrun with
  | nil => exact hm
  | snoc _ he ih => exact ih.event he

/-- **A run is recorded** by its history. -/
theorem records {start : Store String (Datum Number)} (hrun : Run ⟨start, .empty⟩ h m) :
    m.Records h := by
  generalize hm₀ : (⟨start, .empty⟩ : PlainModel) = m₀ at hrun
  induction hrun with
  | nil =>
    subst hm₀
    exact records_empty start
  | snoc hrun he ih =>
    subst hm₀
    exact ih.event (hrun.kept (kept_empty start)).registered he

end Run

/-- The variable that is found under a name is the one that was made under it. -/
theorem Records.find?_eq_some_iff (hr : m.Records h) (hm : m.Registered) {n : String} {x : Var} :
    m.problem.find? n = some x ↔ .asked n (some x) ∈ h := by
  rw [hm.find?_eq_some_iff, hr.register, List.mem_filterMap]
  constructor
  · rintro ⟨entry, hentry, hmade⟩
    cases entry with
    | asked n' x? =>
      obtain ⟨x', rfl, hx⟩ := Option.map_eq_some_iff.1 hmade
      obtain ⟨rfl, rfl⟩ := Prod.mk.inj hx
      exact hentry
    | added c => simp [Entry.made?] at hmade
  · exact fun hentry => ⟨_, hentry, rfl⟩

/-- **Whatever happens to a problem, it is sent in order.** The names of its register are the ones
that were asked for, each where it was asked for first; under each one the variable is found that
was made then, and is so from then on. The constraints are those that were added, and all their
variables are the ones found under their names. So an objective is refused exactly if it mentions a
variable that is not of the register; any other one is sent, in a message that renders the problem,
constraint by constraint, and is in order. -/
theorem message_of_run {start : Store String (Datum Number)} (hrun : Run ⟨start, .empty⟩ h m) :
    m.Records h ∧ m.problem.names.Nodup ∧
    (∀ n x, m.problem.find? n = some x ↔ .asked n (some x) ∈ h) ∧
    (∀ h' m', Run m h' m' → ∀ n x, m.problem.find? n = some x → m'.problem.find? n = some x) ∧
    (∀ c ∈ m.problem.constraints, ∀ x ∈ c.expression.vars,
      m.problem.find? (m.store.name x) = some x) ∧
    ∀ (ofText) (direction) (o : Operand String Number) (e) (options : Option (Options _)),
      o.Built m.store → o.lift m.store.name = .ok e → (e.vars = [] → e.constant.Fits) →
      (∀ p ∈ options, ∃ d, p.get "verbose" = .ok d) →
      ((∃ err, m.message (Datum.inquiry ofText) direction o options = .error err ∧
          err.errorClass = .value) ↔ ∃ x ∈ e.vars, x ∉ m.problem.vars) ∧
      ((∀ x ∈ e.vars, x ∈ m.problem.vars) →
        ∃ M, m.message (Datum.inquiry ofText) direction o options = .ok M ∧
          M.direction = direction ∧ M.InOrder (Datum.inquiry ofText) m e) := by
  have hm := hrun.kept (kept_empty start)
  have hr := hrun.records
  refine ⟨hr, hm.registered.names, fun n x => hr.find?_eq_some_iff hm.registered, ?_, ?_, ?_⟩
  · intro h' m' hrun' n x hx
    have hall := hrun.trans hrun'
    rw [hall.records.find?_eq_some_iff (hall.kept (kept_empty start)).registered]
    exact List.mem_append_left _ ((hr.find?_eq_some_iff hm.registered).1 hx)
  · exact fun c hc x hx => hm.registered.find?_name_iff.2 (hm.known c hc x hx)
  · intro ofText direction o e options ho he hfits hoptions
    obtain ⟨hrefused, hsent⟩ := hm.message ofText direction ho he hfits hoptions
    refine ⟨⟨?_, ?_⟩, hsent⟩
    · rintro ⟨err, herr, -⟩
      by_contra hnot
      push Not at hnot
      obtain ⟨M, hM, -⟩ := hsent hnot
      rw [hM] at herr
      simp at herr
    · intro hforeign
      obtain ⟨n, hn⟩ := hrefused hforeign
      exact ⟨_, hn, rfl⟩

/-- A variable `x` that is at least zero. -/
def fromZero : Variable String (Datum Number) :=
  ⟨"x", .number (.whole 0), .null, .null, .null, .null⟩

/-- The same comparator among operands that are numbers of the program. -/
def atMost : Operand String Number := .other ⟨.plain "str", some Sense.le.text, true, 2⟩

/-- What is left when `x` has been made and asked for again, and `x <= 4` has been added and `y <= 4`
refused, as `y` stands alone: `x` can be sent, and `y` cannot. -/
theorem message_of_run_fromZero : ∃ m h, Run ⟨.empty, .empty⟩ h m ∧ m.problem.names = ["x"] ∧
    (∃ M, m.message (Datum.inquiry fun _ => none) .minimize (.var ⟨0⟩) none = .ok M ∧
      M.names = ["x"] ∧ M.constraints.length = 1) ∧
    ∃ err, m.message (Datum.inquiry fun _ => none) .minimize (.var ⟨1⟩) none = .error err ∧
      err.errorClass = .value := by
  have hbounded : fromZero.IsBounded := ⟨⟨_, rfl⟩, trivial, trivial⟩
  let m₁ : PlainModel := ⟨⟨#[fromZero]⟩, ⟨[("x", ⟨0⟩)], []⟩⟩
  let m₂ : PlainModel := { m₁ with store := m₁.store.push { fromZero with name := "y" } }
  have hmade : (addVariable (Datum.inquiry fun _ => none) fromZero).run ⟨.empty, .empty⟩ =
      .ok ⟨0⟩ m₁ := by
    rw [run_addVariable_datum]
    rfl
  have hnotMade : (addVariable (Datum.inquiry fun _ => none) fromZero).run m₁ =
      .error (.duplicate "x") m₁ := by
    rw [run_addVariable_datum]
    rfl
  obtain ⟨c, hadded, hc, hle⟩ : ∃ c, (addConstraint (.operand (.var ⟨0⟩))
      [atMost, .number (.whole 4)]).run m₂ = .ok c (m₂.append c) ∧ c.expression.vars = [⟨0⟩] ∧
        c.isEquality = false := by
    rw [run_addConstraint]
    exact ⟨_, rfl, rfl, rfl⟩
  obtain ⟨e, hrefused⟩ : ∃ e, (addConstraint (.operand (.var ⟨1⟩))
      [atMost, .number (.whole 4)]).run (m₂.append c) = .error e (m₂.append c) := by
    rw [run_addConstraint]
    exact ⟨_, rfl⟩
  have hx : (Operand.var ⟨0⟩ : Operand String Number).Built m₂.store := show 0 < 2 by decide
  have hy : (Operand.var ⟨1⟩ : Operand String Number).Built m₂.store := show 1 < 2 by decide
  have hpassed : ∀ o ∈ (Given.operand (.var ⟨0⟩)).passed [atMost, .number (.whole 4)],
      o.Built m₂.store := by
    simp only [Given.passed, List.forall_mem_cons]
    exact ⟨hx, trivial, trivial, by simp⟩
  have hrun : Run ⟨.empty, .empty⟩ [.asked "x" (some ⟨0⟩), .asked "x" none, .added c]
      (m₂.append c) :=
    ((((Run.nil.snoc (.made hbounded hmade)).snoc (.notMade hnotMade)).snoc
      (.free { fromZero with name := "y" })).snoc (.added hpassed hadded
        fun h => absurd (hc.symm.trans h) (List.cons_ne_nil _ _))).snoc
      (.refused hrefused)
  obtain ⟨-, -, -, -, -, hmessage⟩ := message_of_run hrun
  have hsendX := hmessage (fun _ => none) .minimize (.var ⟨0⟩) _ none hx rfl
    (fun h => absurd h (List.cons_ne_nil _ _))
    (by simp)
  have hsendY := hmessage (fun _ => none) .minimize (.var ⟨1⟩) _ none hy rfl
    (fun h => absurd h (List.cons_ne_nil _ _))
    (by simp)
  have hforeign : (⟨1⟩ : Var) ∉ (m₂.append c).problem.vars := show (⟨1⟩ : Var) ∉ [⟨0⟩] by decide
  refine ⟨m₂.append c, _, hrun, rfl, ?_, hsendY.1.2 ⟨⟨1⟩, List.mem_singleton_self _, hforeign⟩⟩
  obtain ⟨M, hM, -, hinOrder⟩ := hsendX.2 (List.forall_mem_singleton.2 List.mem_cons_self)
  refine ⟨M, hM, hinOrder.names, ?_⟩
  rw [← hinOrder.renders.constraints.length_eq]
  simp [m₂, m₁, append, hle]

end Model

end Milp
