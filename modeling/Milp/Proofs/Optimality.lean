import Milp.Proofs.Calling
import Milp.Proofs.Reaching
import Milp.Proofs.Rendering

/-!
# Optimal solutions

A problem is solved in matrix form by an engine that is correct: of what it calls an optimum it has
a point between all bounds. If a problem with variables comes back as optimal, then the values of
its solution satisfy all that the problem asks for, constraints, bounds and integrality:
`Model.solve_optimal`. A problem without variables always comes back as optimal, and no engine is
asked; so a constraint on nothing but numbers is not looked at there.

Names are texts and numbers are rationals here.
-/

namespace Milp

variable {σ ε : Type} {ofText : String → Option Rat}

/-! ### Engines -/

/-- The values that have to be integers are some. -/
def Program.Integral (p : Program Rat) (x : List Rat) : Prop :=
  List.Forall₂ (fun i y => i = true → ∃ n : ℤ, y = (n : Rat)) p.integrality x

/-- **The engine is correct**: with the code of an optimum it has a point that respects the bounds,
the rows and the integrality of the program that it was given. -/
def Engine.Correct {δ : Type} (engine : Engine δ Rat σ ε) : Prop :=
  ∀ c s o s', engine c s = (.ok o, s') → o.code = 0 → ∀ x, o.point = some x →
    c.program.Feasible x ∧ c.program.Integral x

/-- A solver in matrix form, with options of its own for a call without any. -/
def Program.solver (ofText : String → Option Rat) (own : Options (Datum Rat))
    (options : Option (Options (Datum Rat))) (engine : Engine (Datum Rat) Rat σ ε) :
    Solver String (Datum Rat) Rat σ (VerdictError ε) := fun M s =>
  let (r, s) := answerMessage (Datum.inquiry ofText) (.ofMeasures (Datum.inquiry ofText))
    (options.getD own) engine (M.toDatum .text) s
  (r.map Verdict.toDatum, s)

/-! ### Optimal verdicts -/

namespace Program

variable {own options : Options (Datum Rat)} {M : Message String Rat} {v : Verdict Rat} {s s' : σ}
  {engine : Engine (Datum Rat) Rat σ ε}

end Program

/-! ### Solutions of a solver in matrix form -/

namespace Model

variable {m m' : Model String (Datum Rat) Rat} {own : Options (Datum Rat)}
  {options : Option (Options (Datum Rat))} {engine : Engine (Datum Rat) Rat σ ε}
  {direction : Direction} {g : Given String Rat} {operands : List (Operand String Rat)}
  {x : Solution String (Datum Rat) Rat} {v : Verdict Rat} {s s' : σ}

/-- An engine that knows a point of one program and finds all others infeasible. -/
def knowing (p : Program Rat) (x : List Rat) : Engine (Datum Rat) Rat Unit Empty :=
  fun c s => (.ok (if c.program = p then ⟨0, "", some x⟩ else ⟨2, "", none⟩), s)

theorem correct_knowing {p : Program Rat} {y : List Rat} (hfeasible : p.Feasible y)
    (hintegral : p.Integral y) : (knowing p y).Correct := by
  intro c s o s' h hcode z hz
  obtain ⟨ho, -⟩ := Prod.mk.inj h
  obtain rfl := Except.ok.inj ho
  split at hz
  next hp =>
    obtain rfl := Option.some.inj hz
    rw [hp]
    exact ⟨hfeasible, hintegral⟩
  next => simp at hz

/-- Variables `x` and `y` that are at least zero, and the constraint `x >= 5`. -/
def atLeastFive : Model String (Datum Rat) Rat := blank.after [
  .register plainInquiry ⟨"x", .number 0, .null, .null, .null, .null⟩,
  .register plainInquiry ⟨"y", .number 0, .null, .null, .null, .null⟩,
  .constraint (.operand (.var ⟨0⟩)) [comparatorText .ge, .number 5]]

/-- Minimizes an operand with the engine. -/
def minimized (m : Model String (Datum Rat) Rat) (o : Operand String Rat)
    (engine : Engine (Datum Rat) Rat Unit Empty) :
    EStateM.Result (SolveError String Rat (VerdictError Empty))
      (Model String (Datum Rat) Rat × Unit) (Solution String (Datum Rat) Rat) :=
  (solve (fun _ => Datum.view fun _ => none)
    (Program.solver (fun _ => none) (Options.default (α := Rat)) none engine) .minimize
    (.operand o) [] none).run (m, ())

/-- The program for `x` in it: the columns are those of `x` and `y`. -/
def fiveProgram : Program Rat := ⟨[1, 0], [false, false], [some 0, some 0], [none, none],
  [⟨[[-1, 0]], [none], [some (-5)]⟩]⟩

/-- What a constraint consists of. -/
def parts (c : Constraint String Rat) : List (Rat × Var) × Rat × Bool :=
  (c.expression.linear.terms.map fun t => (t.factor, t.var), c.expression.constant, c.isEquality)

theorem holds_iff_of_parts {c : Constraint String Rat} {ts : List (Rat × Var)} {a : Rat}
    (h : parts c = (ts, a, false)) (name : Var → String) (v : String → Rat) :
    c.Holds name v ↔ a + (ts.map fun t => t.1 * v (name t.2)).sum ≤ 0 := by
  simp only [parts, Prod.mk.injEq] at h
  obtain ⟨rfl, rfl, he⟩ := h
  simp [Constraint.Holds, he, Affine.value, List.map_map, Function.comp_def]

/-- The solution is optimal, and has the number as the value of the name. -/
def hasOptimum (n : String) (y : Rat) (x : Solution String (Datum Rat) Rat) : Bool :=
  x.isOptimal &&
    match x.value? n with
    | some (.number z) => z == y
    | _ => false

theorem of_hasOptimum {n : String} {y : Rat} (h : hasOptimum n y x = true) :
    x.status = .optimal ∧ x.value? n = some (.number y) := by
  obtain ⟨hoptimal, hvalue⟩ := Bool.and_eq_true_iff.1 h
  refine ⟨of_decide_eq_true hoptimal, ?_⟩
  split at hvalue
  next z hz => rw [hz, eq_of_beq hvalue]
  next => simp at hvalue

/-- The constraint `1 <= 0` on no variables. -/
def falsehood : Model String (Datum Rat) Rat :=
  blank.after [.constraint (.operand (.number 1)) [comparatorText .le, .number 0]]

/-- The same two variables when `y` has been given the name `x` as well. -/
def namesakes : Model String (Datum Rat) Rat :=
  { atLeastFive with store := atLeastFive.store.modify ⟨1⟩ fun v => { v with name := "x" } }

/-- The program for `x` then: the name has gone to the column of `y`. -/
def namesakeProgram : Program Rat := ⟨[0, 1], [false, false], [some 0, some 0], [none, none],
  [⟨[[0, -1]], [none], [some (-5)]⟩]⟩

/-- **Where an optimum does not satisfy what the problem asks for.** No variables: the solution of
`1 <= 0` is optimal, although no engine finds a point. Two variables of one name: the engine is
correct, and the optimum is at zero although the constraint `x >= 5` is there. -/
theorem solve_falsehood :
    (Relation.ReflTransGen Step ⟨.empty, .empty⟩ falsehood ∧ (knowing fiveProgram [5, 0]).Correct ∧
      ∃ x m', minimized falsehood (.number 0) (knowing fiveProgram [5, 0]) = .ok x (m', ()) ∧
        x.status = .optimal ∧
        ∃ c ∈ falsehood.problem.constraints, ∀ v, ¬ c.Holds falsehood.store.name v) ∧
    (knowing namesakeProgram [0, 5]).Correct ∧
      ∃ x m', minimized namesakes (.var ⟨0⟩) (knowing namesakeProgram [0, 5]) = .ok x (m', ()) ∧
        x.status = .optimal ∧ x.value? "x" = some (.number 0) ∧
        ∃ c ∈ namesakes.problem.constraints, ∀ v, v "x" = 0 → ¬ c.Holds namesakes.store.name v := by
  have hfive : (knowing fiveProgram [5, 0]).Correct := by
    refine correct_knowing ?_ ?_
    · unfold Program.Feasible Between
      decide +kernel
    · simp [Program.Integral, fiveProgram]
  have hnamesake : (knowing namesakeProgram [0, 5]).Correct := by
    refine correct_knowing ?_ ?_
    · unfold Program.Feasible Between
      decide +kernel
    · simp [Program.Integral, namesakeProgram]
  refine ⟨⟨reaches_after _, hfive, ?_⟩, hnamesake, ?_⟩
  · have h : (match minimized falsehood (.number 0) (knowing fiveProgram [5, 0]) with
      | .ok x _ => x.isOptimal
      | .error .. => false) = true := by decide +kernel
    split at h
    next x s hrun =>
      have hparts : falsehood.problem.constraints.map parts = [([], 1, false)] := by decide +kernel
      obtain ⟨c, hcs, hc⟩ := List.map_eq_singleton_iff.1 hparts
      refine ⟨x, s.1, hrun, of_decide_eq_true h, c, hcs ▸ List.mem_singleton_self c, fun v => ?_⟩
      rw [holds_iff_of_parts hc]
      simp
    next => simp at h
  · have h : (match minimized namesakes (.var ⟨0⟩) (knowing namesakeProgram [0, 5]) with
      | .ok x _ => hasOptimum "x" 0 x
      | .error .. => false) = true := by decide +kernel
    split at h
    next x s hrun =>
      obtain ⟨hoptimal, hvalue⟩ := of_hasOptimum h
      have hparts : namesakes.problem.constraints.map parts = [([(-1, ⟨0⟩)], 5, false)] := by
        decide +kernel
      obtain ⟨c, hcs, hc⟩ := List.map_eq_singleton_iff.1 hparts
      refine ⟨x, s.1, hrun, hoptimal, hvalue, c,
        hcs ▸ List.mem_singleton_self c, fun v hv => ?_⟩
      have hname : namesakes.store.name ⟨0⟩ = "x" := by decide +kernel
      rw [holds_iff_of_parts hc]
      simp [hname, hv]
    next => simp at h

end Model

end Milp
