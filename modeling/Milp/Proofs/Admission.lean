import Milp.Proofs.Stating
import Milp.Problem.Solve

/-!
# Which variables a problem admits

A problem checks that every variable is the one registered under its name. What it checks is the
merged expression, in which of several variables under one name only the one mentioned first is
left. So a foreign variable is noticed exactly if it comes before the variable of the problem with
its name: `Model.admission`.

Names are texts here, so everything can be written in the log.
-/

namespace Milp

variable {δ α : Type} [Scalar α] {name : Var → String}

/-! ### Expressions in writing -/

namespace Piece

/-- The piece is some text. -/
def IsText : Piece → Prop
  | text _ => True
  | bare _ _ => False

theorem isText_termPart (factor : α) (n : String) : (termPart factor n).IsText := by
  unfold termPart
  split
  · exact trivial
  · split <;> exact trivial

end Piece

theorem joinParts_isOk (first : List Char) {parts : List Piece} (h : ∀ p ∈ parts, p.IsText) :
    ∃ s, joinParts first parts = .ok s := by
  fun_induction joinParts first parts with
  | case1 first => exact ⟨first, rfl⟩
  | case2 first part rest ih | case3 first part rest _ ih =>
    exact ih fun p hp => h p (List.mem_cons_of_mem _ hp)
  | case4 first kind written rest => exact (h _ List.mem_cons_self).elim

theorem partsText_isOk {parts : List Piece} (h : ∀ p ∈ parts, p.IsText) :
    ∃ s, partsText parts = .ok s := by
  match parts with
  | [] => exact ⟨"", rfl⟩
  | .bare _ _ :: _ => exact (h _ List.mem_cons_self).elim
  | .text first :: rest =>
    obtain ⟨s, hs⟩ := joinParts_isOk first fun p hp => h p (List.mem_cons_of_mem _ hp)
    refine ⟨String.ofList s, ?_⟩
    rw [partsText, hs]
    rfl

/-- A constraint whose variables have texts as names can be written. -/
theorem Constraint.display_isOk (name : Var → String) (c : Constraint String α) :
    ∃ s, c.display name = .ok s := by
  have hparts : ∀ p ∈ ((c.expression.terms name).map fun t => termPart t.2 t.1), p.IsText := by
    intro p hp
    obtain ⟨t, -, rfl⟩ := List.mem_map.1 hp
    exact Piece.isText_termPart t.2 t.1
  have hsum : ∃ s, sumText (c.expression.terms name) c.expression.constant = .ok s := by
    unfold sumText
    refine partsText_isOk ?_
    split
    · simp only [List.mem_append, List.mem_singleton]
      rintro p (hp | rfl)
      · exact hparts p hp
      · exact trivial
    · exact hparts
  obtain ⟨s, hs⟩ := hsum
  simp only [display, constraintText, hs]
  exact ⟨_, rfl⟩

/-! ### The check -/

namespace Problem

/-- The variables that are mentioned first are the ones registered under their names. -/
def Admits (p : Problem String α) (name : Var → String) (first : String → Option Var) : Prop :=
  ∀ key x, first key = some x → p.find? (name x) = some x

omit [Scalar α] in
theorem checkVar_eq (p : Problem String α) (n : String) (x : Var) :
    p.checkVar n x = if p.find? n = some x then .ok () else .error (.foreignVariable n) := by
  simp [checkVar, Name.unfit?]

omit [Scalar α] in
theorem check_vars_eq (p : Problem String α) (xs : List Var) :
    (∀ x ∈ xs, p.find? (name x) = some x) ∧
        (xs.forM fun x => p.checkVar (name x) x) = .ok () ∨
      (¬ ∀ x ∈ xs, p.find? (name x) = some x) ∧
        ∃ n, (xs.forM fun x => p.checkVar (name x) x) = .error (.foreignVariable n) := by
  induction xs with
  | nil => exact .inl ⟨by simp, rfl⟩
  | cons x xs ih =>
    rw [List.forM, checkVar_eq]
    split
    · next hx =>
      simp only [List.forall_mem_cons, hx, true_and]
      exact ih
    · next hx => exact .inr ⟨fun h => hx (h x List.mem_cons_self), name x, rfl⟩

end Problem

omit [Scalar α] in
theorem Affine.mem_vars_iff {e : Affine String α} {x : Var} :
    x ∈ e.vars ↔ ∃ key, e.var? key = some x := by
  constructor
  · intro h
    obtain ⟨t, ht, rfl⟩ := List.mem_map.1 h
    refine ⟨t.key, ?_⟩
    rw [var?, Linear.var?, Linear.mem_terms_iff.1 ht]
    rfl
  · rintro ⟨key, h⟩
    obtain ⟨t, ht, rfl⟩ := Option.map_eq_some_iff.1 h
    exact List.mem_map_of_mem (Linear.of_find?_eq_some ht).1

omit [Scalar α] in
/-- **The check of an expression** sees the variables that are filed in it. -/
theorem Problem.check_eq (p : Problem String α) (name : Var → String) (e : Affine String α) :
    p.Admits name e.var? ∧ p.check name e = .ok () ∨
      ¬ p.Admits name e.var? ∧ ∃ n, p.check name e = .error (.foreignVariable n) := by
  have hall : (∀ x ∈ e.vars, p.find? (name x) = some x) ↔ p.Admits name e.var? := by
    simp only [Affine.mem_vars_iff, Admits]
    exact ⟨fun h key x hx => h x ⟨key, hx⟩, fun h x ⟨key, hx⟩ => h key x hx⟩
  rw [← hall]
  exact p.check_vars_eq e.vars

/-! ### Calls -/

namespace Model

section Lift

variable {ν δ α ε τ : Type} [Name ν] {m : Model ν δ α}

@[simp] theorem run_lift_ok (x : τ) :
    (lift (.ok x) : Action ν δ α ε τ).run m = .ok x m := rfl

@[simp] theorem run_lift_error (e : ε) :
    (lift (.error e) : Action ν δ α ε τ).run m = .error e m := rfl

end Lift

/-- The model with one more variable. -/
def enroll {ν δ α : Type} [BEq ν] (m : Model ν δ α) (v : Variable ν δ) : Model ν δ α :=
  ⟨m.store.push v, { m.problem with register := m.problem.register ++ [(v.name, m.store.fresh)] }⟩

/-- The model with one more constraint. -/
def append {ν δ α : Type} [BEq ν] (m : Model ν δ α) (c : Constraint ν α) : Model ν δ α :=
  { m with problem := { m.problem with constraints := m.problem.constraints ++ [c] } }

omit [Scalar α] in
/-- **A name is checked and the variable is registered**; after that the log is written. -/
theorem run_addVariable {ν : Type} [Name ν] (m : Model ν δ α) (q : Inquiry δ α)
    (v : Variable ν δ) : (addVariable q v).run m =
      match Name.unfit? v.name with
      | some kind => .error (.datum (.unhashable kind)) m
      | none =>
        if (m.problem.find? v.name).isSome then .error (.duplicate v.name) m
        else
          match variableLine q v with
          | .error e => .error (.datum e) (m.enroll v)
          | .ok _ => .ok m.store.fresh (m.enroll v) := by
  unfold addVariable
  simp only [EStateM.run_bind, EStateM.run_get]
  cases Name.unfit? v.name with
  | some kind => rfl
  | none =>
    dsimp only
    split
    · rfl
    · simp only [EStateM.run_bind, EStateM.run_set, EStateM.run_pure]
      cases variableLine q v <;> rfl

/-- **A constraint is read and checked, and then it is added**; after that it is written. -/
theorem run_addConstraint_written {ν : Type} [Name ν] [Inhabited (Variable ν δ)] (m : Model ν δ α)
    (g : Given ν α) (operands : List (Operand ν α)) : (addConstraint g operands).run m =
      match readConstraint m.store.name g operands with
      | .error e => .error (.source e) m
      | .ok c =>
        match m.problem.check m.store.name c.expression with
        | .error e => .error e m
        | .ok _ =>
          match c.display m.store.name with
          | .error e => .error (.source (.ofName e)) (m.append c)
          | .ok _ => .ok c (m.append c) := by
  unfold addConstraint
  simp only [EStateM.run_bind, EStateM.run_get]
  cases readConstraint m.store.name g operands with
  | error e => simp
  | ok c =>
    simp only [Except.mapError_ok, run_lift_ok]
    cases m.problem.check m.store.name c.expression with
    | error e => simp
    | ok _ =>
      simp only [run_lift_ok, EStateM.run_set]
      cases c.display m.store.name <;> rfl

variable [Inhabited (Variable String δ)] {m : Model String δ α} {g : Given String α}
  {operands : List (Operand String α)}

/-- **A constraint is read, checked and then added.** -/
theorem run_addConstraint : (addConstraint g operands).run m =
    match readConstraint m.store.name g operands with
    | .error e => .error (.source e) m
    | .ok c =>
      match m.problem.check m.store.name c.expression with
      | .error e => .error e m
      | .ok _ => .ok c (m.append c) := by
  rw [run_addConstraint_written]
  cases readConstraint m.store.name g operands with
  | error e => rfl
  | ok c =>
    obtain ⟨s, hs⟩ := c.display_isOk m.store.name
    cases hcheck : m.problem.check m.store.name c.expression with
    | error e => simp only [hcheck]
    | ok _ => simp only [hcheck, hs]

theorem addConstraint_eq_ok {c : Constraint String α} {m' : Model String δ α}
    (h : (addConstraint g operands).run m = .ok c m') :
    readConstraint m.store.name g operands = .ok c ∧
      m.problem.check m.store.name c.expression = .ok () ∧ m' = m.append c := by
  rw [run_addConstraint] at h
  split at h
  · simp at h
  · next c' hc' =>
    split at h
    · simp at h
    · next hcheck =>
      obtain ⟨rfl, rfl⟩ := EStateM.Result.ok.inj h
      exact ⟨hc', hcheck, rfl⟩

theorem addConstraint_eq_error {e : ProblemError String α} {m' : Model String δ α}
    (h : (addConstraint g operands).run m = .error e m') : m' = m := by
  rw [run_addConstraint] at h
  split at h
  · exact (EStateM.Result.error.inj h).2.symm
  · split at h
    · exact (EStateM.Result.error.inj h).2.symm
    · simp at h

/-- The objective is checked before anything else. -/
theorem message_of_refused {q : Inquiry δ α} {direction : Direction} {e : Affine String α}
    {options : Option (Options δ)} {err : ProblemError String α}
    (h : m.problem.check m.store.name e = .error err) :
    m.message q direction (.expression e) options = .error err := by
  have hstart : m.message q direction (.expression e) options =
      m.problem.check m.store.name e >>= fun _ =>
        (m.problem.constraints.forM fun c => m.problem.check m.store.name c.expression) >>= fun _ =>
          (m.serialize q direction e options).mapError .datum := rfl
  rw [hstart, h]
  rfl

/-- An objective is refused: with this error, before a solver is asked, and with everything as it
was. -/
def Refuses (m : Model String δ α) (g : Given String α) (operands : List (Operand String α))
    (err : ProblemError String α) : Prop :=
  ∀ {σ ε : Type} [Data δ α] (view : σ → DataView String δ α) (solver : Solver String δ α σ ε)
    direction options s, (run view solver direction g operands options).run (m, s) =
      .error (.problem err) (m, s)

theorem refuses_of_unreadable {e : SourceError String α}
    (he : g.evaluate m.store.name .operandsOfObjective operands = .error e) :
    m.Refuses g operands (.source e) := by
  intro σ ε _ view solver direction options s
  unfold run
  simp only [EStateM.run_bind, EStateM.run_get, he]
  rfl

theorem refuses_of_check {e : Affine String α} {err : ProblemError String α}
    (he : g.evaluate m.store.name .operandsOfObjective operands = .ok e)
    (h : m.problem.check m.store.name e = .error err) : m.Refuses g operands err := by
  intro σ ε _ view solver direction options s
  unfold run
  simp only [EStateM.run_bind, EStateM.run_get, EStateM.run_pure, he, message_of_refused h]
  rfl

/-- What can be read as a constraint is added exactly if the problem admits what it states. -/
theorem addConstraint_admits {c : Constraint String α} {a : Assertion (Operand String α)}
    (hc : readConstraint m.store.name g operands = .ok c)
    (ha : g.States m.store.name operands a) :
    (m.problem.Admits m.store.name (a.var? m.store.name) →
      (addConstraint g operands).run m = .ok c (m.append c)) ∧
    (¬ m.problem.Admits m.store.name (a.var? m.store.name) →
      ∃ n, (addConstraint g operands).run m = .error (.foreignVariable n) m) := by
  have hvar : c.expression.var? = a.var? m.store.name := funext (var?_readConstraint hc ha)
  rw [← hvar, run_addConstraint, hc]
  obtain ⟨h, hcheck⟩ | ⟨h, n, hcheck⟩ := m.problem.check_eq m.store.name c.expression
  · exact ⟨fun _ => by simp only [hcheck], fun hn => absurd h hn⟩
  · exact ⟨fun hp => absurd hp h, fun _ => ⟨n, by simp only [hcheck]⟩⟩

/-- **Which calls a problem admits.** A constraint that can be read states something, and it is
added exactly if the first variable that is mentioned there under every name is the registered one,
from the side that is not subtracted to the one that is; any other call leaves the model as it was.
An objective that can be read is let through by the check exactly if the first variable that it
mentions under every name is the registered one; any other objective is refused. -/
theorem admission (m : Model String δ α) (g : Given String α) (operands : List (Operand String α)) :
    (∀ e, readConstraint m.store.name g operands = .error e →
      (addConstraint g operands).run m = .error (.source e) m) ∧
    (∀ c, readConstraint m.store.name g operands = .ok c →
      (∃ a, g.States m.store.name operands a) ∧ ∀ a, g.States m.store.name operands a →
        (m.problem.Admits m.store.name (a.var? m.store.name) →
          (addConstraint g operands).run m = .ok c (m.append c)) ∧
        (¬ m.problem.Admits m.store.name (a.var? m.store.name) →
          ∃ n, (addConstraint g operands).run m = .error (.foreignVariable n) m)) ∧
    (∀ e, g.evaluate m.store.name .operandsOfObjective operands = .error e →
      m.Refuses g operands (.source e)) ∧
    (∀ e, g.evaluate m.store.name .operandsOfObjective operands = .ok e →
      (∃ f, g.Says operands f) ∧ ∀ f, g.Says operands f →
        (m.problem.Admits m.store.name (f.var? m.store.name) →
          m.problem.check m.store.name e = .ok ()) ∧
        (¬ m.problem.Admits m.store.name (f.var? m.store.name) →
          ∃ n, m.Refuses g operands (.foreignVariable n))) := by
  refine ⟨fun e he => ?_, fun c hc => ?_, fun e => refuses_of_unreadable, fun e he => ?_⟩
  · rw [run_addConstraint, he]
  · exact ⟨(readConstraint_eq_ok hc).1, fun a => addConstraint_admits hc⟩
  · obtain ⟨hexists, hvar⟩ := Given.evaluate_eq_ok he
    refine ⟨hexists, fun f hf => ?_⟩
    rw [← funext (hvar f hf)]
    obtain ⟨h, hcheck⟩ | ⟨h, n, hcheck⟩ := m.problem.check_eq m.store.name e
    · exact ⟨fun _ => hcheck, fun hn => absurd h hn⟩
    · exact ⟨fun hp => absurd hp h, fun _ => ⟨n, refuses_of_check he hcheck⟩⟩

/-! ### Two variables with one name -/

/-- A problem with a variable, beside which stands another one with the same name. -/
def twins : Model String Unit Rat where
  store := ⟨#[⟨"a", (), (), (), (), ()⟩, ⟨"a", (), (), (), (), ()⟩]⟩
  problem := ⟨[("a", ⟨0⟩)], []⟩

/-- A comparator among the operands. -/
def comparatorText (s : Sense) : Operand String Rat :=
  .other ⟨.plain "str", some s.text, true, 2⟩

/-- Of `a <= b` and `b <= a` the first is added, and the second refused. -/
theorem admission_twins :
    (∃ c, (addConstraint (.operand (.var ⟨0⟩)) [comparatorText .le, .var ⟨1⟩]).run twins =
      .ok c (twins.append c)) ∧
    ∃ n, (addConstraint (.operand (.var ⟨1⟩)) [comparatorText .le, .var ⟨0⟩]).run twins =
      .error (.foreignVariable n) twins := by
  have hread (x y : Var) : ∃ c, readConstraint twins.store.name (.operand (.var x))
      [comparatorText .le, .var y] = .ok c := ⟨_, rfl⟩
  have hstates (x y : Var) : Given.States twins.store.name (.operand (.var x))
      [comparatorText .le, .var y] ⟨.operand (.var x), .le, .operand (.var y)⟩ := .triple rfl rfl
  constructor
  · obtain ⟨c, hc⟩ := hread ⟨0⟩ ⟨1⟩
    refine ⟨c, (((admission twins _ _).2.1 c hc).2 _ (hstates ⟨0⟩ ⟨1⟩)).1 ?_⟩
    intro key x hx
    change ((if "a" == key then some (⟨0⟩ : Var) else none).or
      (if "a" == key then some ⟨1⟩ else none)) = some x at hx
    cases hkey : "a" == key with
    | false => simp [hkey] at hx
    | true =>
      obtain rfl : (⟨0⟩ : Var) = x := by simpa [hkey] using hx
      decide +kernel
  · obtain ⟨c, hc⟩ := hread ⟨1⟩ ⟨0⟩
    refine (((admission twins _ _).2.1 c hc).2 _ (hstates ⟨1⟩ ⟨0⟩)).2 fun h => ?_
    exact absurd (h "a" ⟨1⟩ (by decide +kernel)) (by decide +kernel)

/-- In `{} + {} <= 1` a foreign variable passes behind the registered one with its name. -/
theorem addConstraint_foreign : twins.problem.find? (twins.store.name ⟨1⟩) ≠ some ⟨1⟩ ∧
    ∃ c m, (addConstraint (.source (.format "\x7b\x7d + \x7b\x7d <= 1"))
      [.var ⟨0⟩, .var ⟨1⟩]).run twins = .ok c m ∧ m.problem.constraints.length = 1 := by
  refine ⟨by decide +kernel, ?_⟩
  have h : (match (addConstraint (.source (.format "\x7b\x7d + \x7b\x7d <= 1"))
      [.var ⟨0⟩, .var ⟨1⟩]).run twins with
    | .ok _ m => m.problem.constraints.length
    | .error .. => 0) = 1 := by decide +kernel
  split at h
  · next c m hrun => exact ⟨c, m, hrun, h⟩
  · simp at h

end Model

end Milp
