import Milp.Proofs.Fields

/-!
# Calls to an engine

A message with variables is brought into matrix form, and with that and its settings the engine is
called. The first call asks for what the message asks for; a message with a name that is not known
never gets to the engine: `Program.answerMessage_calls`.
-/

namespace Milp

/-- The engine with a record of the calls that are made to it. -/
def Engine.recorded {δ α σ ε : Type} (engine : Engine δ α σ ε) :
    Engine δ α (σ × List (Call δ α)) ε := fun c s =>
  ((engine c s.1).1, (engine c s.1).2, s.2 ++ [c])

namespace Program

variable {σ ε : Type} {ofText : String → Option Rat} {d : Datum Rat} {M : Message String Rat}
  {options : Options (Datum Rat)} {engine : Engine (Datum Rat) Rat σ ε} {s : σ}

section Verdict

variable {δ α : Type} {engine : Engine δ α σ ε} {c : Call δ α} {s t : σ × List (Call δ α)}
  {r : Except ε (Outcome α)}

theorem calls_recorded (h : engine.recorded c s = (r, t)) : t.2 = s.2 ++ [c] := by
  rw [← (Prod.mk.inj h).2]

/-- A verdict begins with the call that it is asked for. -/
theorem verdict_recorded [Scalar α] (engine : Engine δ α σ ε) (c : Call δ α)
    (s : σ × List (Call δ α)) :
    ∃ calls, (verdict engine.recorded c s).2.2 = s.2 ++ c :: calls := by
  unfold verdict
  split
  next e t h => exact ⟨[], calls_recorded h⟩
  next first t h =>
    split
    next => exact ⟨[], calls_recorded h⟩
    next =>
      split
      next =>
        have hsecond {r u} (hu : engine.recorded { c with program := c.program.feasibility } t =
            (r, u)) : u.2 = s.2 ++ c :: [{ c with program := c.program.feasibility }] := by
          rw [calls_recorded hu, calls_recorded h, List.append_assoc]
          rfl
        split
        next e u hu => exact ⟨_, hsecond hu⟩
        next second u hu =>
          refine ⟨_, Eq.trans ?_ (hsecond hu)⟩
          split
          · rfl
          · split <;> rfl
      next => exact ⟨[], calls_recorded h⟩

end Verdict

variable (ofText) in
/-- Options with their three settings make the settings of a call. -/
theorem settings_isOk (h : d.IsMessage M) (hoptions : ∃ es, options.entries = .ok es) :
    ∃ t, settings (Datum.inquiry ofText) d options = .ok t := by
  obtain ⟨b, hb⟩ := Datum.find_isOk h.direction "verbose"
  obtain ⟨es, hes⟩ := hoptions
  simp only [Options.entries, Except.bind_eq_ok_iff] at hes
  obtain ⟨loud, hloud, limit, hlimit, gap, hgap, -⟩ := hes
  have hfind : (Datum.inquiry ofText).find d "verbose" = .ok b := hb
  have htruth (b : Datum Rat) : (Datum.inquiry ofText).truth b = .ok b.truth := rfl
  unfold settings
  simp only [hfind, htruth, hloud, hlimit, hgap, Except.ok_bind]
  cases b.truth <;> exact ⟨_, rfl⟩

theorem checkCounts_eq (h : d.IsMessage M) : checkCounts (Datum.inquiry ofText) d = .ok () := by
  obtain ⟨cs, hcs, -⟩ := h.constraints
  obtain ⟨es, hes, -⟩ := h.equalities
  unfold checkCounts
  rw [get_inquiry, get_inquiry, hcs, hes]
  rfl

theorem variablesOf_eq {ds : List (Datum Rat)} (h : d.get "variables" = .ok (.list ds)) :
    variablesOf (Datum.inquiry ofText) d = .ok ds := by
  unfold variablesOf
  rw [get_inquiry, h]
  cases ds <;> rfl

section Answer

variable {ds : List (Datum Rat)}

/-- A message that can be read and fits leads to a call with its program. -/
theorem callOf_of_known (h : d.IsMessage M) (hds : List.Forall₂ Datum.IsColumn ds M.columns)
    (hfits : M.Fits) (hknown : M.Known) (hoptions : ∃ es, options.entries = .ok es) :
    ∃ t, callOf (ε := ε) (Datum.inquiry ofText) (.ofMeasures (Datum.inquiry ofText)) options d ds =
      .ok ⟨M.program, t⟩ := by
  obtain ⟨t, ht⟩ := settings_isOk ofText h hoptions
  refine ⟨t, ?_⟩
  unfold callOf
  rw [(ofMessage_reads ofText h hds).result hknown hfits, ht, checkCounts_eq h]
  rfl

/-- A message with a name that is not known leads to no call. -/
theorem callOf_of_unknown (h : d.IsMessage M) (hds : List.Forall₂ Datum.IsColumn ds M.columns)
    (hunknown : ¬M.Known) :
    ∃ e : MatrixError, callOf (ε := ε) (Datum.inquiry ofText)
      (.ofMeasures (Datum.inquiry ofText)) options d ds = .error (.matrix e) ∧
        e.errorClass = .value := by
  have hreads := ofMessage_reads ofText h hds
  cases hprogram : ofMessage (Datum.inquiry ofText) (.ofMeasures (Datum.inquiry ofText)) d ds with
  | ok p => exact absurd (hreads.known p hprogram) hunknown
  | error e =>
    refine ⟨e, ?_, hreads.value e hprogram⟩
    unfold callOf
    rw [hprogram]
    rfl

/-- A message with variables is answered by a verdict on its call, if it has one. -/
theorem answerMessage_eq (h : d.get "variables" = .ok (.list ds)) (hne : ds ≠ []) :
    answerMessage (Datum.inquiry ofText) (.ofMeasures (Datum.inquiry ofText)) options engine d s =
      match callOf (Datum.inquiry ofText) (.ofMeasures (Datum.inquiry ofText)) options d ds with
      | .error e => (.error e, s)
      | .ok c => verdict engine c s := by
  obtain ⟨v, vs, rfl⟩ := List.exists_cons_of_ne_nil hne
  unfold answerMessage
  rw [variablesOf_eq h]
  dsimp only
  cases callOf (ε := ε) (Datum.inquiry ofText) (.ofMeasures (Datum.inquiry ofText)) options d
    (v :: vs) <;> rfl

end Answer

/-- **What a message with variables makes an engine do.** If all its terms name variables of the
message, under different names, and there are as many offsets as rows, the first call asks for what
the message asks for. If a term names no variable, the answer is a failure for a value, and there is
no call. -/
theorem answerMessage_calls (h : d.IsMessage M) (hne : M.columns ≠ []) :
    (M.names.Nodup → M.Fits → M.Known → (∃ es, options.entries = .ok es) →
      ∃ c calls, (answerMessage (Datum.inquiry ofText) (.ofMeasures (Datum.inquiry ofText)) options
        engine.recorded d (s, [])).2.2 = c :: calls ∧ M.Asks c.program) ∧
    (¬M.Known → ∃ e : MatrixError,
      answerMessage (Datum.inquiry ofText) (.ofMeasures (Datum.inquiry ofText)) options
        engine.recorded d (s, []) = (.error (.matrix e), s, []) ∧ e.errorClass = .value) := by
  obtain ⟨ds, hget, hds⟩ := h.columns
  have hvariables : ds ≠ [] := by
    rintro rfl
    exact hne (List.forall₂_nil_left_iff.1 hds)
  rw [answerMessage_eq hget hvariables]
  constructor
  · intro hnames hfits hknown hoptions
    obtain ⟨t, ht⟩ := callOf_of_known h hds hfits hknown hoptions
    obtain ⟨calls, hcalls⟩ := verdict_recorded engine ⟨M.program, t⟩ (s, [])
    rw [ht]
    exact ⟨_, calls, hcalls, Message.program_asks hnames hfits hknown⟩
  · intro hunknown
    obtain ⟨e, he, hvalue⟩ := callOf_of_unknown h hds hunknown
    rw [he]
    exact ⟨e, rfl, hvalue⟩

/-- To maximize `x + 3 y + x`, with `x + y + y <= 4` and `y - x == 1`. -/
def twoColumns : Message String Rat where
  direction := .maximize
  columns := [⟨"x", some 0, none, none, true⟩, ⟨"y", none, some 10, some 2, false⟩]
  objective := [("x", 1), ("y", 3), ("x", 1)]
  objectiveOffset := 0
  constraints := [[("x", 1), ("y", 1), ("y", 1)]]
  constraintOffsets := [-4]
  equalities := [[("y", 1), ("x", -1)]]
  equalitiesOffsets := [-1]
  verbose := false

/-- The same with a term of `z` in the objective. -/
def strayTerm : Message String Rat := { twoColumns with objective := [("x", 1), ("z", 1)] }

/-- An engine that finds every program infeasible. -/
def hopeless : Engine (Datum Rat) Rat Unit Empty := fun _ s => (.ok ⟨2, "", none⟩, s)

theorem answerMessage_twoColumns :
    let q : Inquiry (Datum Rat) Rat := Datum.inquiry fun _ => none
    let options : Options (Datum Rat) := Options.default (α := Rat)
    (∃ c calls, (answerMessage q (.ofMeasures q) options hopeless.recorded
      (twoColumns.toDatum .text) ((), [])).2.2 = c :: calls ∧ twoColumns.Asks c.program) ∧
    ∃ e : MatrixError, answerMessage q (.ofMeasures q) options hopeless.recorded
      (strayTerm.toDatum .text) ((), []) = (.error (.matrix e), (), []) ∧
        e.errorClass = .value := by
  have hknown : twoColumns.Known := by
    constructor <;> unfold Message.Mentions <;> decide
  have hstray : ¬strayTerm.Known := fun h =>
    absurd (h.objective ("z", 1) (by decide)) (by decide)
  constructor
  · exact (answerMessage_calls twoColumns.isMessage_toDatum (List.cons_ne_nil _ _)).1
      (by decide) ⟨rfl, rfl⟩ hknown ⟨_, rfl⟩
  · exact (answerMessage_calls strayTerm.isMessage_toDatum (List.cons_ne_nil _ _)).2 hstray

end Program

end Milp
