import Milp.Proofs.MatrixForm
import Milp.Proofs.Building

/-!
# What a problem is sent as

The message of a problem has a column for every variable of the register and a row and an offset for
every constraint, all in their order: `Model.renders_of_message`. If the register is one and every
variable that is mentioned belongs to it, then the terms of the rows name the columns, and no row
names one of them twice.

Names are texts here.
-/

namespace Milp

theorem Except.mapM_eq_ok_iff {ε β γ : Type} {f : β → Except ε γ} {xs : List β} {ys : List γ} :
    xs.mapM f = .ok ys ↔ List.Forall₂ (fun x y => f x = .ok y) xs ys := by
  induction xs generalizing ys with
  | nil =>
    rw [List.mapM_nil, List.forall₂_nil_left_iff]
    exact Except.pure_eq_ok_iff.trans eq_comm
  | cons x xs ih =>
    simp only [List.mapM_cons, Except.bind_eq_ok_iff, Except.pure_eq_ok_iff,
      List.forall₂_cons_left_iff, ih]
    constructor
    · rintro ⟨y, hy, ys', hys, rfl⟩
      exact ⟨y, ys', hy, hys, rfl⟩
    · rintro ⟨y, ys', hy, hys, rfl⟩
      exact ⟨y, hy, ys', hys, rfl⟩

/-- If there is something for every part of a list, there is a list of these things. -/
theorem exists_forall₂ {β γ : Type} {R : β → γ → Prop} {xs : List β} (h : ∀ x ∈ xs, ∃ y, R x y) :
    ∃ ys, List.Forall₂ R xs ys := by
  induction xs with
  | nil => exact ⟨[], .nil⟩
  | cons x xs ih =>
    rw [List.forall_mem_cons] at h
    obtain ⟨y, hy⟩ := h.1
    obtain ⟨ys, hys⟩ := ih h.2
    exact ⟨y :: ys, .cons hy hys⟩

/-- What corresponds to equal things by turns is equal. -/
theorem map_eq_map_of_forall₂ {β γ κ : Type} {R : β → γ → Prop} {f : β → κ} {g : γ → κ}
    {xs : List β} {ys : List γ} (h : List.Forall₂ R xs ys) (hR : ∀ x y, R x y → f x = g y) :
    xs.map f = ys.map g := by
  induction h with
  | nil => rfl
  | cons h _ ih => rw [List.map_cons, List.map_cons, hR _ _ h, ih]

variable {δ α : Type} [Scalar α] [Inhabited (Variable String δ)] {m : Model String δ α}
  {q : Inquiry δ α} {direction : Direction} {o : Operand String α} {e : Affine String α}
  {options : Option (Options δ)} {M : Message String α}

/-! ### Checks that are passed -/

omit [Scalar α] [Inhabited (Variable String δ)] in
theorem Problem.check_eq_ok_iff {p : Problem String α} {name : Var → String} :
    p.check name e = .ok () ↔ p.Admits name e.var? := by
  obtain ⟨hadmits, hcheck⟩ | ⟨hnot, n, hcheck⟩ := p.check_eq name e
  · exact ⟨fun _ => hadmits, fun _ => hcheck⟩
  · rw [hcheck]
    exact ⟨fun h => (nomatch h), fun h => absurd h hnot⟩

omit [Scalar α] [Inhabited (Variable String δ)] in
theorem Problem.forM_check_eq_ok_iff {p : Problem String α} {name : Var → String}
    {cs : List (Constraint String α)} : (cs.forM fun c => p.check name c.expression) = .ok () ↔
      ∀ c ∈ cs, p.Admits name c.expression.var? := by
  rw [Except.forM_eq_ok_iff]
  simp only [check_eq_ok_iff]

namespace Model.Registered

omit [Scalar α] in
/-- A variable is found under its name exactly if it is one of the register. -/
theorem find?_name_iff (hm : m.Registered) {x : Var} :
    m.problem.find? (m.store.name x) = some x ↔ x ∈ m.problem.vars := by
  rw [hm.find?_eq_some_iff]
  constructor
  · exact fun h => List.mem_map_of_mem h
  · intro h
    obtain ⟨r, hr, rfl⟩ := List.mem_map.1 h
    rw [hm.name r hr]
    exact hr

omit [Scalar α] in
/-- An expression is admitted exactly if its variables are those of the register. -/
theorem admits_iff (hm : m.Registered) :
    m.problem.Admits m.store.name e.var? ↔ ∀ x ∈ e.vars, x ∈ m.problem.vars := by
  unfold Problem.Admits
  constructor
  · intro h x hx
    obtain ⟨key, hkey⟩ := Affine.mem_vars_iff.1 hx
    exact hm.find?_name_iff.1 (h key x hkey)
  · intro h key x hkey
    exact hm.find?_name_iff.2 (h x (Affine.mem_vars_iff.2 ⟨key, hkey⟩))

end Model.Registered

/-! ### Columns and rows -/

/-- **What a problem is sent as**: its variables in order, and its constraints of either kind in
order, each as a row and an offset. -/
structure Message.Renders (M : Message String α) (q : Inquiry δ α) (m : Model String δ α)
    (e : Affine String α) : Prop where
  columns : List.Forall₂ (fun x c => Model.column q (m.store.get x) = .ok c) m.problem.vars
    M.columns
  objective : Model.row m.store.name e = .ok M.objective
  objectiveOffset : Model.offset e = .ok M.objectiveOffset
  constraints : List.Forall₂ (fun c row => Model.row m.store.name c.expression = .ok row)
    (m.problem.constraints.filter (!·.isEquality)) M.constraints
  constraintOffsets : List.Forall₂ (fun c a => Model.offset c.expression = .ok a)
    (m.problem.constraints.filter (!·.isEquality)) M.constraintOffsets
  equalities : List.Forall₂ (fun c row => Model.row m.store.name c.expression = .ok row)
    (m.problem.constraints.filter (·.isEquality)) M.equalities
  equalitiesOffsets : List.Forall₂ (fun c a => Model.offset c.expression = .ok a)
    (m.problem.constraints.filter (·.isEquality)) M.equalitiesOffsets

namespace Model

/-- The options ask for a solver that is verbose, or for one that is not. -/
def Verbose (q : Inquiry δ α) (verbose : Bool) : Option (Options δ) → Prop
  | none => verbose = false
  | some o => ∃ d, o.get "verbose" = .ok d ∧ q.truth d = .ok verbose

/-- A message is put together from parts each of which can be made. -/
theorem serialize_eq_ok_iff : m.serialize q direction e options = .ok M ↔
    M.Renders q m e ∧ M.direction = direction ∧ Verbose q M.verbose options := by
  have hparts : ∀ {τ : Type} (f : Affine String α → Except DatumError τ)
      (cs : List (Constraint String α)) (ys : List τ), (cs.map Constraint.expression).mapM f =
        .ok ys ↔ List.Forall₂ (fun c y => f c.expression = .ok y) cs ys := by
    intro τ f cs ys
    rw [Except.mapM_eq_ok_iff, List.forall₂_map_left_iff]
  unfold serialize
  simp only [Except.bind_eq_ok_iff, Except.mapM_eq_ok_iff, hparts]
  constructor
  · rintro ⟨columns, h₁, objective, h₂, objectiveOffset, h₃, constraints, h₄, constraintOffsets, h₅,
      equalities, h₆, equalitiesOffsets, h₇, h⟩
    cases options with
    | none =>
      obtain rfl := Except.ok.inj h
      exact ⟨⟨h₁, h₂, h₃, h₄, h₅, h₆, h₇⟩, rfl, rfl⟩
    | some o =>
      simp only [Except.bind_eq_ok_iff, Except.pure_eq_ok_iff] at h
      obtain ⟨d, hd, verbose, hverbose, rfl⟩ := h
      exact ⟨⟨h₁, h₂, h₃, h₄, h₅, h₆, h₇⟩, rfl, d, hd, hverbose⟩
  · rintro ⟨h, rfl, hverbose⟩
    refine ⟨_, h.columns, _, h.objective, _, h.objectiveOffset, _, h.constraints, _,
      h.constraintOffsets, _, h.equalities, _, h.equalitiesOffsets, ?_⟩
    cases options with
    | none =>
      have hfalse : M.verbose = false := hverbose
      rw [← hfalse]
      rfl
    | some o =>
      obtain ⟨d, hd, hverbose⟩ := hverbose
      simp only [Except.bind_eq_ok_iff, Except.pure_eq_ok_iff]
      exact ⟨d, hd, _, hverbose, rfl⟩

/-- A message that is sent renders the problem, for an objective that has been checked. -/
theorem renders_of_message (h : m.message q direction o options = .ok M) :
    ∃ e, o.lift m.store.name = .ok e ∧ m.problem.Admits m.store.name e.var? ∧
      (∀ c ∈ m.problem.constraints, m.problem.Admits m.store.name c.expression.var?) ∧
      M.Renders q m e ∧ M.direction = direction := by
  simp only [message, Except.bind_eq_ok_iff, Except.mapError_eq_ok_iff] at h
  obtain ⟨e, he, _, hcheck, _, hchecks, h⟩ := h
  obtain ⟨hM, hdirection, -⟩ := serialize_eq_ok_iff.1 h
  exact ⟨e, he, Problem.check_eq_ok_iff.1 hcheck,
    Problem.forM_check_eq_ok_iff.1 hchecks, hM, hdirection⟩

end Model

/-! ### Well-formed messages -/

omit [Inhabited (Variable String δ)] [Scalar α] in
theorem Model.name_of_column {v : Variable String δ} {c : Column String α}
    (h : Model.column q v = .ok c) : c.name = v.name := by
  simp only [Model.column, Except.bind_eq_ok_iff, Except.pure_eq_ok_iff] at h
  obtain ⟨min, -, max, -, initial, -, integer, -, rfl⟩ := h
  rfl

/-- A row has the terms of its expression, under the names of their variables. -/
theorem Model.names_row {name : Var → String} {row : Row String α}
    (h : Model.row name e = .ok row) : row.map Prod.fst = e.vars.map name := by
  have hterm : ∀ (t : String × α) (r : String × α),
      (do return (t.1, ← (Scalar.measure t.2).mapError DatumError.scalar)) = Except.ok r →
        t.1 = r.1 := by
    intro t r hr
    simp only [Except.bind_eq_ok_iff, Except.pure_eq_ok_iff] at hr
    obtain ⟨x, -, rfl⟩ := hr
    rfl
  rw [← map_eq_map_of_forall₂ (Except.mapM_eq_ok_iff.1 h) hterm, Affine.terms, Affine.vars,
    List.map_map, List.map_map]
  rfl

omit [Scalar α] in
/-- Terms that are filed under their names have different names. -/
theorem Affine.Filed.nodup {name : Var → String} (h : e.Filed name) : (e.vars.map name).Nodup := by
  have hkeys : e.linear.terms.map Term.key = e.vars.map name := by
    rw [vars, List.map_map]
    exact List.map_congr_left h
  rw [← hkeys]
  exact e.linear.distinct.imp fun hne => beq_eq_false_iff_ne.1 hne

namespace Message.Renders

variable (h : M.Renders q m e)

include h

theorem names_eq (hm : m.Registered) : M.names = m.problem.names := by
  have hcolumn : ∀ x c, Model.column q (m.store.get x) = .ok c → m.store.name x = c.name :=
    fun x c hc => (Model.name_of_column hc).symm
  rw [Message.names, ← map_eq_map_of_forall₂ h.columns hcolumn, Problem.vars, List.map_map]
  exact List.map_congr_left hm.name

theorem fits : M.Fits := by
  constructor
  · rw [← h.constraintOffsets.length_eq, h.constraints.length_eq]
  · rw [← h.equalitiesOffsets.length_eq, h.equalities.length_eq]

/-- What holds of the names in the objective and in the constraints holds of the names in every row
of the message. -/
theorem forall_row {P : List String → Prop} (he : P (e.vars.map m.store.name))
    (hc : ∀ c ∈ m.problem.constraints, P (c.expression.vars.map m.store.name)) :
    P (M.objective.map Prod.fst) ∧ (∀ row ∈ M.constraints, P (row.map Prod.fst)) ∧
      ∀ row ∈ M.equalities, P (row.map Prod.fst) := by
  have hrows : ∀ {cs : List (Constraint String α)} {rows : List (Row String α)},
      List.Forall₂ (fun c row => Model.row m.store.name c.expression = .ok row) cs rows →
      (∀ c ∈ cs, c ∈ m.problem.constraints) → ∀ row ∈ rows, P (row.map Prod.fst) := by
    intro cs rows hall
    induction hall with
    | nil => exact fun _ row hrow => absurd hrow List.not_mem_nil
    | cons hrow _ ih =>
      intro hcs
      rw [List.forall_mem_cons] at hcs ⊢
      refine ⟨?_, ih hcs.2⟩
      rw [Model.names_row hrow]
      exact hc _ hcs.1
  refine ⟨?_, hrows h.constraints fun c hc => (List.mem_filter.1 hc).1,
    hrows h.equalities fun c hc => (List.mem_filter.1 hc).1⟩
  rw [Model.names_row h.objective]
  exact he

/-- **The terms name columns**, if the variables that are mentioned are those of the register. -/
theorem known (hm : m.Registered) (he : ∀ x ∈ e.vars, x ∈ m.problem.vars)
    (hc : ∀ c ∈ m.problem.constraints, ∀ x ∈ c.expression.vars, x ∈ m.problem.vars) : M.Known := by
  have hname : ∀ x ∈ m.problem.vars, m.store.name x ∈ M.names := by
    intro x hx
    obtain ⟨r, hr, rfl⟩ := List.mem_map.1 hx
    rw [h.names_eq hm, hm.name r hr]
    exact List.mem_map_of_mem hr
  have hall : ∀ {f : Affine String α}, (∀ x ∈ f.vars, x ∈ m.problem.vars) →
      ∀ n ∈ f.vars.map m.store.name, n ∈ M.names := by
    intro f hf n hn
    obtain ⟨x, hx, rfl⟩ := List.mem_map.1 hn
    exact hname x (hf x hx)
  obtain ⟨hobjective, hconstraints, hequalities⟩ :=
    h.forall_row (P := fun ns => ∀ n ∈ ns, n ∈ M.names) (hall he) fun c hmem => hall (hc c hmem)
  exact ⟨fun t ht => hobjective _ (List.mem_map_of_mem ht),
    fun row hrow t ht => hconstraints row hrow _ (List.mem_map_of_mem ht),
    fun row hrow t ht => hequalities row hrow _ (List.mem_map_of_mem ht)⟩

end Message.Renders

/-- **A message in order**: it renders the problem, its columns have the names of the register,
there is an offset for every row, and rows name nothing but columns, each at most once. -/
structure Message.InOrder (M : Message String α) (q : Inquiry δ α) (m : Model String δ α)
    (e : Affine String α) : Prop where
  renders : M.Renders q m e
  names : M.names = m.problem.names
  fits : M.Fits
  known : M.Known
  objective : (M.objective.map Prod.fst).Nodup
  constraints : ∀ row ∈ M.constraints, (row.map Prod.fst).Nodup
  equalities : ∀ row ∈ M.equalities, (row.map Prod.fst).Nodup

/-- **A message is in order** if what it renders only mentions variables of a register, and files
its terms under their names. -/
theorem Message.Renders.inOrder (h : M.Renders q m e) (hm : m.Registered)
    (he : ∀ x ∈ e.vars, x ∈ m.problem.vars)
    (hc : ∀ c ∈ m.problem.constraints, ∀ x ∈ c.expression.vars, x ∈ m.problem.vars)
    (hfe : e.Filed m.store.name)
    (hfc : ∀ c ∈ m.problem.constraints, c.expression.Filed m.store.name) : M.InOrder q m e := by
  obtain ⟨hobjective, hconstraints, hequalities⟩ :=
    h.forall_row hfe.nodup fun c hmem => (hfc c hmem).nodup
  exact ⟨h, h.names_eq hm, h.fits, h.known hm he hc, hobjective, hconstraints, hequalities⟩

end Milp
