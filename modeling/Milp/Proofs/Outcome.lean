import Milp.Proofs.Success
import Milp.Problem.Solve

/-!
# What a solve can do

A solve reads its objective, sends a message, reads the answer and stores the values of an optimum;
then it evaluates the objective and writes a line in the log. So it fails early, with everything as
it was, or it settles a solution and then fails late or ends well: `Model.solve_cases`.
-/

namespace Milp

/-! ### Answers -/

namespace Solution

section Status

variable {ν δ α : Type} {q : Inquiry δ α} {word : δ}

/-- A status that is read is the one that the word says. -/
theorem readStatus_eq_ok {status : Status} (h : readStatus q word = .ok status) :
    q.isText word status.text = .ok true := by
  -- the statuses are tried one after the other
  simp only [readStatus, Except.bind_eq_ok_iff, Except.mapError_eq_ok_iff] at h
  obtain ⟨isOptimal, ho, h⟩ := h
  split at h
  next hif =>
    obtain rfl := Except.ok.inj h
    rwa [← hif]
  next =>
    simp only [Except.bind_eq_ok_iff, Except.mapError_eq_ok_iff] at h
    obtain ⟨isUnbounded, hu, h⟩ := h
    split at h
    next hif =>
      obtain rfl := Except.ok.inj h
      rwa [← hif]
    next =>
      simp only [Except.bind_eq_ok_iff, Except.mapError_eq_ok_iff] at h
      obtain ⟨isInfeasible, hi, h⟩ := h
      split at h
      next hif =>
        obtain rfl := Except.ok.inj h
        rwa [← hif]
      next =>
        obtain ⟨display, -, h⟩ := Except.bind_eq_ok_iff.1 h
        simp [throw, throwThe, MonadExceptOf.throw] at h

end Status

variable {δ α : Type} {q : Inquiry δ α} {answer : δ} {names : List String}
  {x : Solution String δ α}

theorem fileValues_eq (names : List String) (values : List δ) :
    fileValues names values = .ok (fieldsOfList (names.zip values)) := by
  have hnone : (names.zip values).findSome? (fun f => Name.unfit? f.1) = none := by
    rw [List.findSome?_eq_none_iff]
    exact fun _ _ => rfl
  rw [fileValues, hnone]
  rfl

/-- What is optimal needs a value for every name. -/
theorem needsValues_of_optimal {word : δ} {values : List δ} {needed : Bool}
    (h : needsValues q answer values = .ok needed) (hw : q.get answer "status" = .ok word)
    (ho : q.isText word Status.optimal.text = .ok true) : needed = true := by
  unfold needsValues at h
  split at h
  · obtain ⟨word', hw', h⟩ := Except.bind_eq_ok_iff.1 h
    rw [Except.mapError_eq_ok_iff] at hw' h
    obtain rfl : word' = word := Except.ok.inj (hw'.symm.trans hw)
    exact Except.ok.inj (h.symm.trans ho)
  · exact (Except.ok.inj h).symm

/-- **What an answer that is read says.** At an optimum it carries one value for every name. -/
theorem ofAnswer_eq_ok (h : ofAnswer q answer names = .ok x) :
    q.get answer "status" = .ok x.word ∧ q.isText x.word x.status.text = .ok true ∧
      x.objective = none ∧ ∃ values, readValues q answer = .ok values ∧
        x.values = fieldsOfList (names.zip values) ∧
        (x.status = .optimal → values.length = names.length) := by
  obtain ⟨values, hvalues, h⟩ := Except.bind_eq_ok_iff.1 h
  obtain ⟨needed, hneeded, h⟩ := Except.bind_eq_ok_iff.1 h
  split at h
  · simp [throw, throwThe, MonadExceptOf.throw] at h
  next hcount =>
  simp only [Except.bind_eq_ok_iff, Except.mapError_eq_ok_iff, Except.pure_eq_ok_iff,
    fileValues_eq, Except.ok.injEq] at h
  obtain ⟨word, hword, filed, rfl, status, hstatus, rfl⟩ := h
  have his := readStatus_eq_ok hstatus
  refine ⟨hword, his, rfl, values, hvalues, rfl, ?_⟩
  rintro rfl
  obtain rfl := needsValues_of_optimal hneeded hword his
  simpa using hcount

end Solution

/-! ### Everything that a solve can do -/

/-- The error comes after the values have been stored, if there are any to store. -/
def SolveError.IsLate {ν α ε : Type} [BEq ν] : SolveError ν α ε → Prop
  | evaluation _ | log _ => True
  | problem _ | solver _ | answer _ => False

namespace Model

section Outcome

variable {ν δ α σ ε : Type} [Name ν] [Inhabited (Variable ν δ)] [Scalar α] [Data δ α]
  (view : σ → DataView ν δ α) (solver : Solver ν δ α σ ε) (direction : Direction)
  (g : Given ν α) (operands : List (Operand ν α)) (options : Option (Options δ))
  (m : Model ν δ α) (s : σ)

/-- **The solver is asked**: the objective is read and sent in a message, to which the solver gives
the answer. -/
structure Asks (objective : Affine ν α) (answer : δ) (s' : σ) : Prop where
  read : g.evaluate m.store.name .operandsOfObjective operands = .ok objective
  sent : ∃ M, m.message (view s).inquiry direction (.expression objective) options = .ok M ∧
    solver M s = (.ok answer, s')

/-- The model when a solution has been read: the values of an optimum are stored. -/
def settle (x : Solution ν δ α) : Model ν δ α := if x.isOptimal then m.assign x.values else m

/-- A run reads, sends, reads the answer and settles. -/
theorem run_eq : (run view solver direction g operands options).run (m, s) =
    match g.evaluate m.store.name .operandsOfObjective operands with
    | .error e => .error (.problem (.source e)) (m, s)
    | .ok objective =>
      match m.message (view s).inquiry direction (.expression objective) options with
      | .error e => .error (.problem e) (m, s)
      | .ok M =>
        match solver M s with
        | (.error e, s') => .error (.solver e) (m, s')
        | (.ok answer, s') =>
          match Solution.ofAnswer (view s').inquiry answer m.problem.names with
          | .error e => .error (.answer e) (m, s')
          | .ok x => .ok (objective, x) (m.settle x, s') := by
  unfold run
  simp only [EStateM.run_bind, EStateM.run_get]
  cases g.evaluate m.store.name .operandsOfObjective operands with
  | error e => rfl
  | ok objective =>
    simp only [pure_bind]
    cases m.message (view s).inquiry direction (.expression objective) options with
    | error e => rfl
    | ok M =>
      simp only [EStateM.run_bind, EStateM.run_set]
      cases solver M s with
      | mk reply s' =>
        cases reply with
        | error e => rfl
        | ok answer =>
          simp only
          cases Solution.ofAnswer (view s').inquiry answer m.problem.names with
          | error e => rfl
          | ok x =>
            simp only [settle]
            cases x.isOptimal <;> rfl

/-- **Everything that a run can do**: fail early, with the model as it was, or settle a solution. -/
theorem run_cases :
    (∃ e s', ¬ e.IsLate ∧
      (run view solver direction g operands options).run (m, s) = .error e (m, s')) ∨
    ∃ objective answer s' x, m.Asks view solver direction g operands options s objective answer s' ∧
      Solution.ofAnswer (view s').inquiry answer m.problem.names = .ok x ∧
      (run view solver direction g operands options).run (m, s) =
        .ok (objective, x) (m.settle x, s') := by
  rw [run_eq]
  split
  next e _ => exact .inl ⟨.problem (.source e), s, id, rfl⟩
  next objective hread =>
    split
    next e _ => exact .inl ⟨.problem e, s, id, rfl⟩
    next M hsent =>
      split
      next e s' _ => exact .inl ⟨.solver e, s', id, rfl⟩
      next answer s' hreply =>
        split
        next e _ => exact .inl ⟨.answer e, s', id, rfl⟩
        next x hx => exact .inr ⟨objective, answer, s', x, ⟨hread, M, hsent, hreply⟩, hx, rfl⟩

omit [Data δ α] in
/-- The end of a solve leaves the model alone. -/
theorem run_conclude (objective : Affine ν α) (x : Solution ν δ α) :
    (conclude view objective x : EStateM (SolveError ν α ε) _ _).run (m, s) =
      match x.isOptimal, objective.evaluate m.store.name
          (fun n => (x.value? n).map (view s).operand) with
      | true, .error e => .error (.evaluation e) (m, s)
      | true, .ok total =>
        match solutionLine (view s) m.store.name { x with objective := some total } with
        | .error e => .error (.log e) (m, s)
        | .ok _ => .ok { x with objective := some total } (m, s)
      | false, _ =>
        match solutionLine (view s) m.store.name x with
        | .error e => .error (.log e) (m, s)
        | .ok _ => .ok x (m, s) := by
  unfold conclude
  simp only [EStateM.run_bind, EStateM.run_get]
  cases x.isOptimal with
  | false =>
    simp only [Bool.false_eq_true, if_false, pure_bind]
    cases solutionLine (view s) m.store.name x <;> rfl
  | true =>
    simp only [if_true]
    cases objective.evaluate m.store.name (fun n => (x.value? n).map (view s).operand) with
    | error e => rfl
    | ok total =>
      simp only [pure_bind]
      cases solutionLine (view s) m.store.name { x with objective := some total } <;> rfl

omit [Data δ α] in
/-- **Everything that the end of a solve can do**: fail late, or give an optimum the value of its
objective. -/
theorem conclude_cases (objective : Affine ν α) (x : Solution ν δ α) :
    (∃ e, e.IsLate ∧
      (conclude view objective x : EStateM (SolveError ν α ε) _ _).run (m, s) = .error e (m, s)) ∨
    ∃ x', (conclude view objective x : EStateM (SolveError ν α ε) _ _).run (m, s) = .ok x' (m, s) ∧
      (x.isOptimal = false ∧ x' = x ∨
        x.isOptimal = true ∧ ∃ total, x' = { x with objective := some total } ∧
          objective.evaluate m.store.name (fun n => (x.value? n).map (view s).operand) =
            .ok total) := by
  rw [run_conclude]
  split
  next e _ _ => exact .inl ⟨.evaluation e, trivial, rfl⟩
  next total hoptimal hvalue =>
    split
    next e _ => exact .inl ⟨.log e, trivial, rfl⟩
    next => exact .inr ⟨_, rfl, .inr ⟨hoptimal, total, rfl, hvalue⟩⟩
  next hoptimal =>
    split
    next e _ => exact .inl ⟨.log e, trivial, rfl⟩
    next => exact .inr ⟨x, rfl, .inl ⟨hoptimal, rfl⟩⟩

/-- **Everything that a solve can do**: fail early, with the model as it was, or settle a solution
and conclude. -/
theorem solve_cases :
    (∃ e s', ¬ e.IsLate ∧
      (solve view solver direction g operands options).run (m, s) = .error e (m, s')) ∨
    ∃ objective answer s' x, m.Asks view solver direction g operands options s objective answer s' ∧
      Solution.ofAnswer (view s').inquiry answer m.problem.names = .ok x ∧
      (solve view solver direction g operands options).run (m, s) =
        (conclude view objective x).run (m.settle x, s') := by
  unfold solve
  rw [EStateM.run_bind]
  obtain ⟨e, s', he, hrun⟩ | ⟨objective, answer, s', x, hasks, hx, hrun⟩ :=
    run_cases view solver direction g operands options m s
  · rw [hrun]
    exact .inl ⟨e, s', he, rfl⟩
  · rw [hrun]
    exact .inr ⟨objective, answer, s', x, hasks, hx, rfl⟩

end Outcome

end Model

end Milp
