import Milp.Proofs.Solving

/-!
# Which problems are reached

Whatever is done to a problem and to variables, the register stays one, as long as no variable is
renamed once it is registered: `Model.registered_of_reaches`. So what holds of all registers holds
of all problems that are made in this way.
-/

namespace Milp

namespace Model

variable {δ α σ ε : Type} [Inhabited (Variable String δ)] [Scalar α] [Data δ α]
  {m m' : Model String δ α}

/-! ### What is done to a problem -/

/-- The state in which an action ends, whether it fails or not. -/
def endState {ε μ τ : Type} : EStateM.Result ε μ τ → μ
  | .ok _ m | .error _ m => m

/-- **What is done to a problem and to variables.** A variable may be renamed as long as it is not
registered. -/
inductive Step : Model String δ α → Model String δ α → Prop
  | register (m : Model String δ α) (q : Inquiry δ α) (v : Variable String δ) :
      Step m (endState ((addVariable q v).run m))
  | constraint (m : Model String δ α) (g : Given String α) (operands : List (Operand String α)) :
      Step m (endState ((addConstraint g operands).run m))
  | solve (m : Model String δ α) {σ ε : Type} (view : σ → DataView String δ α)
      (solver : Solver String δ α σ ε) (direction : Direction) (g : Given String α)
      (operands : List (Operand String α)) (options : Option (Options δ)) (s : σ) :
      Step m (endState ((solve view solver direction g operands options).run (m, s))).1
  | make (m : Model String δ α) (v : Variable String δ) :
      Step m { m with store := m.store.push v }
  | change (m : Model String δ α) (x : Var) (f : Variable String δ → Variable String δ) :
      (x ∈ m.problem.vars → ∀ v, (f v).name = v.name) →
      Step m { m with store := m.store.modify x f }

omit [Data δ α] [Inhabited (Variable String δ)] [Scalar α] in
/-- A variable is registered under a new name, or nothing happens. -/
theorem endState_addVariable (m : Model String δ α) (q : Inquiry δ α) (v : Variable String δ) :
    endState ((addVariable q v).run m) = m ∨
      m.problem.find? v.name = none ∧ endState ((addVariable q v).run m) = ⟨m.store.push v,
        { m.problem with register := m.problem.register ++ [(v.name, m.store.fresh)] }⟩ := by
  rw [run_addVariable]
  dsimp only [Name.unfit?]
  split
  next => exact .inl rfl
  next hnew =>
    refine .inr ⟨by simpa using hnew, ?_⟩
    cases variableLine q v <;> rfl

omit [Data δ α] in
/-- A constraint is appended, or nothing happens. -/
theorem endState_addConstraint (m : Model String δ α) (g : Given String α)
    (operands : List (Operand String α)) :
    endState ((addConstraint g operands).run m) = m ∨
      ∃ c, endState ((addConstraint g operands).run m) = m.append c := by
  rw [run_addConstraint]
  split
  next => exact .inl rfl
  next c _ =>
    split
    · exact .inl rfl
    · exact .inr ⟨c, rfl⟩

/-- A solve changes nothing but the values of variables, whether it fails or not. -/
theorem Registered.solve_leaves (hm : m.Registered) (view : σ → DataView String δ α)
    (solver : Solver String δ α σ ε) (direction : Direction) (g : Given String α)
    (operands : List (Operand String α)) (options : Option (Options δ)) (s : σ) :
    (endState ((solve view solver direction g operands options).run (m, s))).1.problem =
        m.problem ∧
      m.store.Revalued m.problem.vars
        (endState ((solve view solver direction g operands options).run (m, s))).1.store := by
  obtain ⟨e, s₁, -, hrun⟩ | ⟨objective, answer, s₁, x, -, hx, hrun⟩ :=
    solve_cases view solver direction g operands options m s
  · rw [hrun]
    exact ⟨rfl, .refl _ _⟩
  · rw [hrun]
    have hsettles := hm.settles hx
    obtain ⟨e, -, hend⟩ | ⟨x', hend, -⟩ := conclude_cases view (m.settle x) s₁ objective x
    · rw [hend]
      exact ⟨hsettles.problem, hsettles.store⟩
    · rw [hend]
      exact ⟨hsettles.problem, hsettles.store⟩

theorem Registered.solve (hm : m.Registered) (view : σ → DataView String δ α)
    (solver : Solver String δ α σ ε) (direction : Direction) (g : Given String α)
    (operands : List (Operand String α)) (options : Option (Options δ)) (s : σ) :
    (endState ((solve view solver direction g operands options).run (m, s))).1.Registered := by
  obtain ⟨hp, hs⟩ := hm.solve_leaves view solver direction g operands options s
  refine hm.of_names (congrArg Problem.register hp) fun x hx => ?_
  obtain ⟨r, hr, rfl⟩ := List.mem_map.1 hx
  exact ⟨(hs.has_iff _).2 (hm.has r hr), congrFun hs.name _⟩

omit [Scalar α] [Data δ α] in
theorem Registered.change (hm : m.Registered) {x : Var}
    {f : Variable String δ → Variable String δ}
    (hf : x ∈ m.problem.vars → ∀ v, (f v).name = v.name) :
    ({ m with store := m.store.modify x f } : Model String δ α).Registered := by
  refine hm.of_names rfl fun y hy => ?_
  have hhas : m.store.Has y := by
    obtain ⟨r, hr, rfl⟩ := List.mem_map.1 hy
    exact hm.has r hr
  refine ⟨?_, ?_⟩
  · rw [Store.Has, Store.modify, Array.size_modify]
    exact hhas
  · by_cases hxy : y = x
    · subst hxy
      rw [Store.name, Store.get_modify_self hhas, hf hy]
      rfl
    · rw [Store.name, Store.get_modify_of_ne hxy]
      rfl

/-- **A register stays a register**, whatever is done. -/
theorem Registered.step (hm : m.Registered) (h : Step m m') : m'.Registered := by
  cases h with
  | register q v =>
    obtain h | ⟨hnew, h⟩ := endState_addVariable m q v
    · rwa [h]
    · rw [h]
      exact hm.push hnew
  | constraint g operands =>
    obtain h | ⟨c, h⟩ := endState_addConstraint m g operands
    · rwa [h]
    · rw [h]
      exact hm.of_extends rfl (.refl _)
  | solve view solver direction g operands options s =>
    exact hm.solve view solver direction g operands options s
  | make v => exact hm.of_extends rfl (m.store.extends_push v)
  | change x f hf => exact hm.change hf

omit [Inhabited (Variable String δ)] in
theorem left_eq_endState {τ ε : Type} (r : EStateM.Result ε (Model String δ Rat) τ) :
    left r = endState r := by
  cases r <;> rfl

/-- The calls of a run are among what is done to a problem and to variables. -/
theorem step_act {m : Model String δ Rat} [Data δ Rat] (c : Call δ) : Step m (m.act c) := by
  cases c with
  | register q v =>
    rw [act, left_eq_endState]
    exact .register m q v
  | constraint g operands =>
    rw [act, left_eq_endState]
    exact .constraint m g operands
  | change x f hf => exact .change m x f fun _ => hf

theorem reaches_after {m : Model String δ Rat} [Data δ Rat] (calls : List (Call δ)) :
    Relation.ReflTransGen Step m (m.after calls) := by
  induction calls generalizing m with
  | nil => exact .refl
  | cons c calls ih => exact .head (step_act c) ih

end Model

end Milp
