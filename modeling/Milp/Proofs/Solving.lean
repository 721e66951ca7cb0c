import Milp.Proofs.Outcome
import Milp.Proofs.Registration

/-!
# What a solve leaves behind

If a solve succeeds, every variable of the register has the value with its place in the answer, and
the objective is the sum over these values: `Model.solve_success`. If it fails early, all is as it
was. If it fails late, the values are those of the answer all the same: `Model.solve_failure`.

Names are texts here.
-/

namespace Milp

/-! ### Sums over values -/

namespace Affine

/-- A sum is extended term by term by the factor times the value of the variable. -/
inductive Sums {ν α : Type} [Name ν] [Scalar α] (name : Var → ν) (value : Var → Operand ν α) :
    Operand ν α → List (Term ν α) → Operand ν α → Prop
  | nil {sum} : Sums name value sum [] sum
  | cons {sum t sum' ts total} : extend name sum t.factor (value t.var) = .ok sum' →
      Sums name value sum' ts total → Sums name value sum (t :: ts) total

/-- **The value of an expression** is its constant plus the sum over its terms. -/
def HasValue {ν α : Type} [Name ν] [Scalar α] (name : Var → ν) (value : Var → Operand ν α)
    (e : Affine ν α) (total : Operand ν α) : Prop :=
  Sums name value (.number e.constant) e.linear.terms total

/-- Over the rationals the value is the exact one, if the variables have numbers as values. -/
theorem Sums.eq_number {name : Var → String} {value : Var → Operand String Rat} {v : Var → Rat}
    {m : Rat} {ts : List (Term String Rat)} {total : Operand String Rat}
    (h : Sums name value (.number m) ts total) (hv : ∀ t ∈ ts, value t.var = .number (v t.var)) :
    total = .number (m + (ts.map fun t => t.factor * v t.var).sum) := by
  induction ts generalizing m with
  | nil =>
    cases h
    rw [List.map_nil, List.sum_nil, add_zero]
  | cons t ts ih =>
    cases h with
    | cons hextend h =>
      rw [List.forall_mem_cons] at hv
      rw [hv.1] at hextend
      obtain rfl := Except.ok.inj hextend
      rw [ih h hv.2, List.map_cons, List.sum_cons, add_assoc]

theorem HasValue.eq_number {name : Var → String} {value : Var → Operand String Rat}
    {v : Var → Rat} {e : Affine String Rat} {total : Operand String Rat}
    (h : e.HasValue name value total) (hv : ∀ x ∈ e.vars, value x = .number (v x)) :
    total = .number (e.constant + (e.linear.terms.map fun t => t.factor * v t.var).sum) :=
  Sums.eq_number h fun t ht => hv t.var (List.mem_map_of_mem ht)

variable {ν α : Type} [Name ν] [Scalar α] {name : Var → ν} {values : ν → Option (Operand ν α)}
  {value : Var → Operand ν α}

end Affine

/-! ### Values that are stored -/

/-- The stores differ in nothing but the values of some variables. -/
structure Store.Revalued {ν δ : Type} [Inhabited (Variable ν δ)] (xs : List Var)
    (s s' : Store ν δ) : Prop where
  size : s'.entries.size = s.entries.size
  value : ∀ x ∈ xs, s'.get x = { s.get x with value := (s'.get x).value }
  other : ∀ x ∉ xs, s'.get x = s.get x

namespace Store.Revalued

variable {ν δ : Type} [Inhabited (Variable ν δ)] {xs : List Var} {s s' : Store ν δ}

theorem refl (xs : List Var) (s : Store ν δ) : Revalued xs s s :=
  ⟨rfl, fun _ _ => rfl, fun _ _ => rfl⟩

/-- No variable is renamed. -/
theorem name (h : Revalued xs s s') : s'.name = s.name := by
  funext x
  unfold Store.name
  by_cases hx : x ∈ xs
  · rw [h.value x hx]
  · rw [h.other x hx]

theorem has_iff (h : Revalued xs s s') (x : Var) : s'.Has x ↔ s.Has x := by
  rw [Has, Has, h.size]

theorem toExtends (h : Revalued xs s s') : s.Extends s' :=
  ⟨fun x => (h.has_iff x).2, fun x _ => congrFun h.name x⟩

end Store.Revalued

namespace Model

variable {δ α : Type} [Inhabited (Variable String δ)] [Scalar α] [Data δ α]
  {m : Model String δ α} {values : List δ}

omit [Scalar α] [Inhabited (Variable String δ)] in
theorem assign_store (m : Model String δ α) (fields : List (String × δ)) :
    (m.assign fields).store = m.store.modifyAll m.problem.register
      (fun n v => { v with value := (fields.lookup n).getD Data.null }) := rfl

omit [Scalar α] in
/-- Nothing but values is assigned. -/
theorem Registered.revalued_assign (hm : m.Registered) (fields : List (String × δ)) :
    m.store.Revalued m.problem.vars (m.assign fields).store := by
  rw [assign_store]
  refine ⟨Store.size_modifyAll _ _, fun x hx => ?_, fun x hx => Store.get_modifyAll_of_notMem hx⟩
  obtain ⟨r, hr, rfl⟩ := List.mem_map.1 hx
  rw [Store.get_modifyAll hm.vars hm.has hr]

omit [Scalar α] in
/-- **Values that are filed under the names of a register are assigned by place.** -/
theorem Registered.map_value_assign (hm : m.Registered)
    (hl : values.length = m.problem.names.length) :
    m.problem.vars.map (fun x => ((m.assign (m.problem.names.zip values)).store.get x).value) =
      values := by
  have hvalue : ∀ r ∈ m.problem.register,
      ((m.assign (m.problem.names.zip values)).store.get r.2).value =
        ((m.problem.names.zip values).lookup r.1).getD Data.null := by
    intro r hr
    rw [assign_store, Store.get_modifyAll hm.vars hm.has hr]
  calc m.problem.vars.map (fun x => ((m.assign (m.problem.names.zip values)).store.get x).value)
      = (m.problem.names.map fun n => (m.problem.names.zip values).lookup n).map
          (Option.getD · Data.null) := by
        rw [Problem.vars, List.map_map, List.map_map, Problem.names, List.map_map]
        exact List.map_congr_left hvalue
    _ = values := by
        rw [map_lookup_zip hm.names hl, List.map_map]
        exact List.map_id _

end Model

namespace Model

/-! ### Solutions that are stored -/

variable {δ α σ ε : Type} [Inhabited (Variable String δ)] [Scalar α] [Data δ α]
  {m m' : Model String δ α}

/-- **What becomes of a model when an answer has been read.** At an optimum every variable of the
register gets the value with its place in the answer, and otherwise nothing happens. -/
structure Settles (q : Inquiry δ α) (answer : δ) (m : Model String δ α)
    (x : Solution String δ α) (m' : Model String δ α) : Prop where
  word : q.get answer "status" = .ok x.word
  status : q.isText x.word x.status.text = .ok true
  problem : m'.problem = m.problem
  store : m.store.Revalued m.problem.vars m'.store
  optimal : x.status = .optimal → ∃ values, Solution.readValues q answer = .ok values ∧
    values.length = m.problem.register.length ∧ x.values = m.problem.names.zip values ∧
    m.problem.vars.map (fun y => (m'.store.get y).value) = values
  other : x.status ≠ .optimal → m' = m

omit [Scalar α] [Data δ α] in
/-- A register that is solved stays a register. -/
theorem Settles.registered {q : Inquiry δ α} {answer : δ} {x : Solution String δ α}
    (h : m.Settles q answer x m') (hm : m.Registered) : m'.Registered := by
  refine hm.of_names (congrArg Problem.register h.problem) fun y hy => ?_
  obtain ⟨r, hr, rfl⟩ := List.mem_map.1 hy
  exact ⟨(h.store.has_iff _).2 (hm.has r hr), congrFun h.store.name _⟩

omit [Scalar α] in
theorem Registered.settles (hm : m.Registered) {q : Inquiry δ α} {answer : δ}
    {x : Solution String δ α} (hx : Solution.ofAnswer q answer m.problem.names = .ok x) :
    m.Settles q answer x (m.settle x) := by
  obtain ⟨hword, hstatus, -, values, hvalues, hfields, hcount⟩ := Solution.ofAnswer_eq_ok hx
  by_cases ho : x.status = .optimal
  · have hsettle : m.settle x = m.assign x.values := by
      simp [settle, Solution.isOptimal, ho]
    have hl := hcount ho
    have hnames : ((m.problem.names.zip values).map Prod.fst).Nodup := by
      rw [List.map_fst_zip (Nat.le_of_eq hl.symm)]
      exact hm.names
    rw [fieldsOfList_eq hnames] at hfields
    rw [hsettle, hfields]
    refine ⟨hword, hstatus, rfl, hm.revalued_assign _, fun _ => ?_, fun hne => absurd ho hne⟩
    exact ⟨values, hvalues, hl.trans (List.length_map _), hfields, hm.map_value_assign hl⟩
  · have hsettle : m.settle x = m := by
      simp [settle, Solution.isOptimal, ho]
    rw [hsettle]
    exact ⟨hword, hstatus, rfl, .refl _ _, fun h => absurd h ho, fun _ => rfl⟩

variable {view : σ → DataView String δ α} {solver : Solver String δ α σ ε} {direction : Direction}
  {g : Given String α} {operands : List (Operand String α)} {options : Option (Options δ)}
  {s s' : σ}

/-- A problem with two variables. -/
def couple : Model String (Datum Rat) Rat where
  store := ⟨#[⟨"a", .null, .null, .null, .null, .null⟩, ⟨"b", .null, .null, .null, .null, .null⟩]⟩
  problem := ⟨[("a", ⟨0⟩), ("b", ⟨1⟩)], []⟩

theorem registered_couple : couple.Registered := by
  refine ⟨by decide, by decide, ?_, ?_⟩
  · rw [show couple.problem.register = [("a", ⟨0⟩), ("b", ⟨1⟩)] from rfl, List.forall_mem_cons,
      List.forall_mem_singleton]
    exact ⟨show 0 < 2 by decide, show 1 < 2 by decide⟩
  · rw [show couple.problem.register = [("a", ⟨0⟩), ("b", ⟨1⟩)] from rfl, List.forall_mem_cons,
      List.forall_mem_singleton]
    exact ⟨rfl, rfl⟩

/-- An optimal answer. -/
def optimum (values : List (Datum Rat)) : Datum Rat :=
  .record [("status", .text "optimal"), ("values", .list values)]

/-- Minimizes `{} + {}` with the two variables; the answer is an optimum with the values. -/
def solveCouple (values : List (Datum Rat)) :
    EStateM.Result (SolveError String Rat Empty) (Model String (Datum Rat) Rat × Unit)
      (Solution String (Datum Rat) Rat) :=
  (solve (fun _ => Datum.view fun _ => none) (fun _ s => (.ok (optimum values), s)) .minimize
    (.source (.format "\x7b\x7d + \x7b\x7d")) [.var ⟨0⟩, .var ⟨1⟩] none).run (couple, ())

/-- **What a failed solve leaves.** The register, the constraints and all of the variables but their
values are as they were. So are the values if the failure comes early. If it comes late, an answer
has been read: then every variable of the register has the value that an optimum gives it, or the
values are as they were too. -/
theorem solve_failure (hm : m.Registered) {e : SolveError String α ε}
    (h : (solve view solver direction g operands options).run (m, s) = .error e (m', s')) :
    m'.problem = m.problem ∧ m.store.Revalued m.problem.vars m'.store ∧
      (¬ e.IsLate → m' = m) ∧
      (e.IsLate → ∃ objective answer x,
        m.Asks view solver direction g operands options s objective answer s' ∧
        m.Settles (view s').inquiry answer x m') := by
  obtain ⟨e₁, s₁, he, hrun⟩ | ⟨objective, answer, s₁, x, hasks, hx, hrun⟩ :=
    solve_cases view solver direction g operands options m s
  · obtain ⟨rfl, hstate⟩ := EStateM.Result.error.inj (hrun.symm.trans h)
    obtain ⟨rfl, rfl⟩ := Prod.mk.inj hstate
    exact ⟨rfl, .refl _ _, fun _ => rfl, fun hlate => absurd hlate he⟩
  · have hsettles := hm.settles hx
    rw [hrun] at h
    obtain ⟨e₂, he, hend⟩ | ⟨x', hend, -⟩ :=
      conclude_cases view (m.settle x) s₁ objective x
    · obtain ⟨rfl, hstate⟩ := EStateM.Result.error.inj (hend.symm.trans h)
      obtain ⟨rfl, rfl⟩ := Prod.mk.inj hstate
      exact ⟨hsettles.problem, hsettles.store, fun hlate => absurd he hlate,
        fun _ => ⟨objective, answer, x, hasks, hsettles⟩⟩
    · rw [hend] at h
      simp at h

/-- The answer `[1, null]` is accepted, and `1` stays behind although there is no objective. -/
theorem solve_oneAndNothing : ∃ e m', solveCouple [.number 1, .null] = .error e (m', ()) ∧
    m'.problem = couple.problem ∧
    couple.problem.vars.map (fun y => (m'.store.get y).value) = [.number 1, .null] := by
  have h : (match solveCouple [.number 1, .null] with
    | .error (.evaluation _) _ => true
    | _ => false) = true := by decide +kernel
  split at h
  next e s hrun =>
    obtain ⟨m', u⟩ := s
    obtain ⟨hproblem, -, -, hlate⟩ := solve_failure registered_couple hrun
    obtain ⟨objective, answer, x, hasks, hsettles⟩ := hlate trivial
    obtain ⟨M, -, hanswer⟩ := hasks.sent
    obtain ⟨rfl, -⟩ : optimum [.number 1, .null] = answer ∧ _ :=
      (Prod.mk.inj hanswer).imp Except.ok.inj id
    obtain hword : Datum.text "optimal" = x.word := Except.ok.inj hsettles.word
    have hstatus := hsettles.status
    rw [← hword] at hstatus
    have ho : x.status = .optimal := by
      cases hx : x.status with
      | optimal => rfl
      | unbounded | infeasible =>
        rw [hx] at hstatus
        exact absurd hstatus (by decide)
    obtain ⟨values, hvalues, -, -, hvars⟩ := hsettles.optimal ho
    obtain rfl : [.number 1, .null] = values := Except.ok.inj hvalues
    exact ⟨_, m', hrun, hproblem, hvars⟩
  next => simp at h

/-- A solve fails and leaves a variable of the register with another value than before. -/
theorem solve_leavesValue : ∃ e m', solveCouple [.number 1, .null] = .error e (m', ()) ∧
    ("a", ⟨0⟩) ∈ couple.problem.register ∧
    (m'.store.get ⟨0⟩).value ≠ (couple.store.get ⟨0⟩).value := by
  have h : (match solveCouple [.number 1, .null] with
    | .error _ (m', _) => !(m'.store.get ⟨0⟩).value.isNull
    | .ok .. => false) = true := by decide +kernel
  split at h
  next e m' u hrun =>
    refine ⟨e, m', hrun, List.mem_cons_self, fun heq => ?_⟩
    rw [heq] at h
    exact absurd h (by decide)
  next => simp at h

end Model

end Milp
