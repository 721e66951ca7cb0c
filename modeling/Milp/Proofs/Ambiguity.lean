import Mathlib
import Milp.Proofs.Calling
import Milp.Session.Failure

/-!
# Infeasible or unbounded

An engine that says in words that a program is infeasible or unbounded is called once more, for the
same program with an objective of zero. What a message is answered with then depends on the two
outcomes, and on the second one by nothing but its code and text: `Program.answerMessage_decided`.
-/

namespace Milp

/-! ### Words in a text -/

/-- **The text has the word in it**, in whatever letter case: in some stretch of it there is for
each letter of the word that letter or its capital. -/
def ContainsWord (text word : String) : Prop :=
  ∃ before stretch behind, text.toList = before ++ stretch ++ behind ∧
    List.Forall₂ (fun c w => c = w ∨ c = w.toUpper) stretch word.toList

theorem mentions_iff {τ : Type} [BEq τ] [LawfulBEq τ] {text word : List τ} :
    mentions text word = true ↔ word <:+: text := by
  induction text with
  | nil => rw [mentions, List.isEmpty_iff, List.infix_nil]
  | cons c cs ih =>
    rw [mentions, Bool.or_eq_true, ih, List.isPrefixOf_iff_prefix, List.infix_cons_iff]

section Letters

variable {c w : Char}

theorem toLower_eq_iff (hw : w.isLower) : c.toLower = w ↔ c = w ∨ c = w.toUpper := by
  have hlower : w.toLower = w := Char.toLower_eq_of_not_isUpper (Char.not_isUpper_of_isLower hw)
  constructor
  · intro h
    by_cases hc : c.isUpper
    · -- a capital is its own capital, and its small letter has the same one
      refine .inr ?_
      rw [← h, Char.toUpper_toLower_eq_toUpper,
        Char.toUpper_eq_of_not_isLower (Char.not_isLower_of_isUpper hc)]
    · exact .inl ((Char.toLower_eq_of_not_isUpper hc).symm.trans h)
  · rintro (rfl | rfl)
    · exact hlower
    · rw [Char.toLower_toUpper_eq_toLower, hlower]

theorem map_toLower_eq_iff {cs ws : List Char} (hws : ∀ w ∈ ws, w.isLower) :
    cs.map Char.toLower = ws ↔ List.Forall₂ (fun c w => c = w ∨ c = w.toUpper) cs ws := by
  induction ws generalizing cs with
  | nil => rw [List.map_eq_nil_iff, List.forall₂_nil_right_iff]
  | cons w ws ih =>
    obtain ⟨hw, hws⟩ := List.forall_mem_cons.1 hws
    rw [List.map_eq_cons_iff, List.forall₂_cons_right_iff]
    constructor
    · rintro ⟨c, cs, rfl, hc, hcs⟩
      exact ⟨c, cs, (toLower_eq_iff hw).1 hc, (ih hws).1 hcs, rfl⟩
    · rintro ⟨c, cs, hc, hcs, rfl⟩
      exact ⟨c, cs, rfl, (toLower_eq_iff hw).2 hc, (ih hws).2 hcs⟩

end Letters

/-- Small letters are looked for in a text that is put in small letters. -/
theorem mentions_toLower_iff {text word : String} (hword : ∀ w ∈ word.toList, w.isLower) :
    mentions (text.toList.map Char.toLower) word.toList = true ↔ ContainsWord text word := by
  rw [mentions_iff]
  constructor
  · rintro ⟨before, behind, h⟩
    obtain ⟨cs, ds, htext, hcs, -⟩ := List.map_eq_append_iff.1 h.symm
    obtain ⟨es, stretch, rfl, -, hstretch⟩ := List.map_eq_append_iff.1 hcs
    exact ⟨es, stretch, ds, htext, (map_toLower_eq_iff hword).1 hstretch⟩
  · rintro ⟨before, stretch, behind, htext, hstretch⟩
    rw [htext, List.map_append, List.map_append, (map_toLower_eq_iff hword).2 hstretch]
    exact List.infix_append ..

/-! ### Two outcomes -/

section Outcomes

variable {α ε : Type} {o first second : Outcome α}

/-- The engine says in words that the program is infeasible or unbounded. -/
def Outcome.SaysEither (o : Outcome α) : Prop :=
  o.code = 4 ∧ ContainsWord o.message "infeasible" ∧ ContainsWord o.message "unbounded"

/-- The codes for a verdict are not the one of an engine that says either. -/
theorem Outcome.not_saysEither {code : Int} (h : o.code = code) (hne : code ≠ 4) :
    ¬o.SaysEither := fun heither => hne (h.symm.trans heither.1)

theorem Outcome.isAmbiguous_iff : o.isAmbiguous = true ↔ o.SaysEither := by
  unfold isAmbiguous SaysEither
  rw [Bool.and_eq_true, Bool.and_eq_true, decide_eq_true_eq, and_assoc,
    mentions_toLower_iff (List.all_eq_true.1 (by decide)),
    mentions_toLower_iff (List.all_eq_true.1 (by decide))]

/-- **What two outcomes make of a message**: the answer, and whether the second is asked for. -/
inductive Decides (first second : Outcome α) :
    Except (VerdictError ε) (Verdict α) → Bool → Prop
  | optimal {x : List α} : first.code = 0 → first.point = some x →
      Decides first second (.ok ⟨.optimal, x⟩) false
  | infeasible : first.code = 2 → Decides first second (.ok ⟨.infeasible, []⟩) false
  | unbounded : first.code = 3 → Decides first second (.ok ⟨.unbounded, []⟩) false
  | undecided : first.code ∉ [0, 2, 3] → ¬first.SaysEither →
      Decides first second (.error (.undecided first.code first.message)) false
  | thenUnbounded : first.SaysEither → second.code = 0 →
      Decides first second (.ok ⟨.unbounded, []⟩) true
  | thenInfeasible : first.SaysEither → second.code = 2 →
      Decides first second (.ok ⟨.infeasible, []⟩) true
  | stillUndecided : first.SaysEither → second.code ∉ [0, 2] →
      Decides first second (.error (.undecided second.code second.message)) true

/-- The failure of a solver that tells the code and the text of an outcome. -/
def Outcome.told (o : Outcome α) : Session.Failure :=
  .plain .solver ("scipy milp failed (status " ++ integerText o.code ++ "): " ++ o.message)

theorem Outcome.mapError_undecided (o : Outcome α) :
    Except.mapError Session.Failure.ofVerdict
      (.error (.undecided o.code o.message) : Except _ (Verdict α)) = .error o.told := rfl

end Outcomes

/-- An engine that has an outcome for every call. -/
def Engine.ofRun {δ α σ ε : Type} (run : Call δ α → σ → Outcome α × σ) : Engine δ α σ ε :=
  fun c s => (.ok (run c s).1, (run c s).2)

theorem Engine.recorded_ofRun {δ α σ ε : Type} {run : Call δ α → σ → Outcome α × σ}
    {c : Call δ α} {s : σ} {calls : List (Call δ α)} :
    (ofRun (ε := ε) run).recorded c (s, calls) =
      (.ok (run c s).1, (run c s).2, calls ++ [c]) := rfl

namespace Program

section Verdict

variable {δ α σ ε : Type} [Scalar α] {run : Call δ α → σ → Outcome α × σ} {c : Call δ α} {s : σ}
  {calls : List (Call δ α)}

/-- The call with an objective of zero. -/
def zeroCall (c : Call δ α) : Call δ α :=
  { c with program := { c.program with
      objective := List.replicate c.program.objective.length Scalar.zero } }

theorem feasibility_eq (c : Call δ α) :
    { c with program := c.program.feasibility } = zeroCall c := by
  rw [feasibility, List.map_const']
  rfl

theorem verdict_of_status {status : Status} (h : (run c s).1.status? = some status) :
    verdict (Engine.ofRun (ε := ε) run).recorded c (s, calls) =
      ((run c s).1.verdict status, (run c s).2, calls ++ [c]) := by
  unfold verdict
  simp only [Engine.recorded_ofRun, h]

theorem verdict_of_undecided (h : (run c s).1.status? = none)
    (heither : ¬(run c s).1.SaysEither) :
    verdict (Engine.ofRun (ε := ε) run).recorded c (s, calls) =
      (.error (.undecided (run c s).1.code (run c s).1.message), (run c s).2, calls ++ [c]) := by
  rw [← Outcome.isAmbiguous_iff] at heither
  unfold verdict
  simp only [Engine.recorded_ofRun, h, heither]
  rfl

theorem verdict_of_ambiguous (h : (run c s).1.status? = none) (heither : (run c s).1.SaysEither) :
    verdict (Engine.ofRun (ε := ε) run).recorded c (s, calls) =
      let second := run (zeroCall c) (run c s).2
      (if second.1.code = 0 then .ok ⟨.unbounded, []⟩
        else if second.1.code = 2 then .ok ⟨.infeasible, []⟩
        else .error (.undecided second.1.code second.1.message),
      second.2, calls ++ [c, zeroCall c]) := by
  rw [← Outcome.isAmbiguous_iff] at heither
  unfold verdict
  simp only [Engine.recorded_ofRun, h, heither, if_true, feasibility_eq, List.append_assoc,
    List.singleton_append]
  split
  · rfl
  · split <;> rfl

/-- **An engine that has an outcome for every call** is called again only if it says that the
program is infeasible or unbounded. -/
theorem verdict_decides (hpoint : (run c s).1.code = 0 → (run c s).1.point.isSome) :
    ∃ asked, Decides (run c s).1 (run (zeroCall c) (run c s).2).1
        (verdict (Engine.ofRun (ε := ε) run).recorded c (s, [])).1 asked ∧
      (verdict (Engine.ofRun (ε := ε) run).recorded c (s, [])).2.2 =
        c :: if asked then [zeroCall c] else [] := by
  by_cases hoptimal : (run c s).1.code = 0
  · obtain ⟨x, hx⟩ := Option.isSome_iff_exists.1 (hpoint hoptimal)
    have hstatus : (run c s).1.status? = some .optimal := by simp [Outcome.status?, hoptimal]
    have hverdict : (run c s).1.verdict (ε := ε) .optimal = .ok ⟨.optimal, x⟩ := by
      simp only [Outcome.verdict, hx]
    rw [verdict_of_status hstatus, hverdict]
    exact ⟨false, .optimal hoptimal hx, rfl⟩
  by_cases hinfeasible : (run c s).1.code = 2
  · have hstatus : (run c s).1.status? = some .infeasible := by
      simp [Outcome.status?, hinfeasible]
    rw [verdict_of_status hstatus]
    exact ⟨false, .infeasible hinfeasible, rfl⟩
  by_cases hunbounded : (run c s).1.code = 3
  · have hstatus : (run c s).1.status? = some .unbounded := by
      simp [Outcome.status?, hunbounded]
    rw [verdict_of_status hstatus]
    exact ⟨false, .unbounded hunbounded, rfl⟩
  have hstatus : (run c s).1.status? = none := by
    simp [Outcome.status?, hoptimal, hinfeasible, hunbounded]
  by_cases heither : (run c s).1.SaysEither
  · rw [verdict_of_ambiguous hstatus heither]
    refine ⟨true, ?_, rfl⟩
    dsimp only
    split
    next hzero => exact .thenUnbounded heither hzero
    next hzero =>
      split
      next htwo => exact .thenInfeasible heither htwo
      next htwo => exact .stillUndecided heither (by simp [hzero, htwo])
  · rw [verdict_of_undecided hstatus heither]
    exact ⟨false, .undecided (by simp [hoptimal, hinfeasible, hunbounded]) heither, rfl⟩

end Verdict

/-! ### Messages -/

section Message

open Session (Failure)

variable {δ α β σ : Type} [Scalar α] {q : Inquiry δ β} {arrays : Arrays δ α}
  {options : Options δ} {message : δ} {c : Call δ α}

/-- **The message leads to the call**: it has variables and a matrix form, and the options have the
settings that go with it. -/
def LeadsTo (q : Inquiry δ β) (arrays : Arrays δ α) (options : Options δ) (message : δ)
    (c : Call δ α) : Prop :=
  ∃ columns, variablesOf q message = .ok columns ∧ columns ≠ [] ∧
    callOf (ε := Failure) q arrays options message columns = .ok c

theorem LeadsTo.answerMessage (h : LeadsTo q arrays options message c)
    (engine : Engine δ α σ Failure) (s : σ) :
    answerMessage q arrays options engine message s = verdict engine c s := by
  obtain ⟨columns, hcolumns, hne, hcall⟩ := h
  obtain ⟨v, vs, rfl⟩ := List.exists_cons_of_ne_nil hne
  unfold Program.answerMessage
  simp only [hcolumns, hcall]

/-- A message all of whose terms name variables of its own, and that has as many offsets as rows,
leads to a call with its program. -/
theorem exists_leadsTo {ofText : String → Option Rat} {d : Datum Rat} {M : Message String Rat}
    {options : Options (Datum Rat)} (h : d.IsMessage M) (hne : M.columns ≠ []) (hfits : M.Fits)
    (hknown : M.Known) (hoptions : ∃ es, options.entries = .ok es) :
    ∃ t, LeadsTo (Datum.inquiry ofText) (.ofMeasures (Datum.inquiry ofText)) options d
      ⟨M.program, t⟩ := by
  obtain ⟨ds, hget, hds⟩ := h.columns
  obtain ⟨t, ht⟩ := callOf_of_known h hds hfits hknown hoptions
  refine ⟨t, ds, variablesOf_eq hget, ?_, ht⟩
  rintro rfl
  exact hne (List.forall₂_nil_left_iff.1 hds)

/-- **What a message is answered with, and by which calls**, where the call that it leads to has the
first outcome, and the same with an objective of zero has the second one. -/
structure Decided (c : Call δ α) (first second : Outcome α) (answer : Except Failure (Verdict α))
    (calls : List (Call δ α)) : Prop where
  once : ¬first.SaysEither → calls = [c]
  twice : first.SaysEither → calls = [c, zeroCall c]
  optimal : ∀ xs, answer = .ok ⟨.optimal, xs⟩ ↔ first.code = 0 ∧ first.point = some xs
  unbounded : ∀ xs, answer = .ok ⟨.unbounded, xs⟩ ↔
    xs = [] ∧ (first.code = 3 ∨ first.SaysEither ∧ second.code = 0)
  infeasible : ∀ xs, answer = .ok ⟨.infeasible, xs⟩ ↔
    xs = [] ∧ (first.code = 2 ∨ first.SaysEither ∧ second.code = 2)
  /-- In all other cases it is the last outcome that is told. -/
  failed : ∀ f, answer = .error f ↔
    ¬first.SaysEither ∧ first.code ∉ [0, 2, 3] ∧ f = first.told ∨
      first.SaysEither ∧ second.code ∉ [0, 2] ∧ f = second.told

theorem decided_of_decides {first second : Outcome α}
    {answer : Except (VerdictError Failure) (Verdict α)} {asked : Bool}
    (h : Decides first second answer asked) :
    Decided c first second (answer.mapError Failure.ofVerdict)
      (c :: if asked then [zeroCall c] else []) := by
  cases h with
  | optimal hcode hpoint =>
    have heither := Outcome.not_saysEither hcode (by decide)
    constructor <;> simp [hcode, hpoint, heither]
  | infeasible hcode =>
    have heither := Outcome.not_saysEither hcode (by decide)
    constructor <;> simp [hcode, heither, eq_comm]
  | unbounded hcode =>
    have heither := Outcome.not_saysEither hcode (by decide)
    constructor <;> simp [hcode, heither, eq_comm]
  | undecided hcode heither =>
    rw [Outcome.mapError_undecided]
    have hcodes : first.code ≠ 0 ∧ first.code ≠ 2 ∧ first.code ≠ 3 := by simpa using hcode
    constructor <;> simp [hcodes, heither, eq_comm]
  | thenUnbounded heither hcode =>
    constructor <;> simp [heither.1, hcode, heither, eq_comm]
  | thenInfeasible heither hcode =>
    constructor <;> simp [heither.1, hcode, heither, eq_comm]
  | stillUndecided heither hcode =>
    rw [Outcome.mapError_undecided]
    have hcodes : second.code ≠ 0 ∧ second.code ≠ 2 := by simpa using hcode
    constructor <;> simp [heither.1, hcodes, heither, eq_comm]

/-- **How a message is answered by two calls at most.** Every message whose terms name variables of
its own, with as many offsets as rows, leads to a call. What leads to a call is answered by that one
if its outcome does not say of the program that it is infeasible or unbounded, and else by the one
with an objective of zero, of which no value is ever told. -/
theorem answerMessage_decided :
    (∀ {ofText : String → Option Rat} {d : Datum Rat} {M : Message String Rat}
        {options : Options (Datum Rat)}, d.IsMessage M → M.columns ≠ [] → M.Fits → M.Known →
      (∃ es, options.entries = .ok es) →
      ∃ t, LeadsTo (Datum.inquiry ofText) (.ofMeasures (Datum.inquiry ofText)) options d
        ⟨M.program, t⟩) ∧
    (∀ {q : Inquiry δ β} {arrays : Arrays δ α} {options : Options δ} {message : δ} {c : Call δ α},
      LeadsTo q arrays options message c →
      ∀ (run : Call δ α → σ → Outcome α × σ) (s : σ),
        ((run c s).1.code = 0 → (run c s).1.point.isSome) →
        Decided c (run c s).1 (run (zeroCall c) (run c s).2).1
          ((answerMessage q arrays options (Engine.ofRun run).recorded message (s, [])).1.mapError
            Failure.ofVerdict)
          (answerMessage q arrays options
            (Engine.ofRun (ε := Failure) run).recorded message (s, [])).2.2) := by
  refine ⟨exists_leadsTo, fun hleads run s hpoint => ?_⟩
  obtain ⟨asked, hdecides, hcalls⟩ := verdict_decides (ε := Failure) hpoint
  rw [hleads.answerMessage, hcalls]
  exact decided_of_decides hdecides

/-- An engine with prepared outcomes. -/
def prepared : Call (Datum Rat) Rat → List (Outcome Rat) → Outcome Rat × List (Outcome Rat)
  | _, o :: rest => (o, rest)
  | _, [] => (⟨1, "", none⟩, [])

/-- A program of which the engine says in capitals that it is either, and then with an objective of
zero that it has a point. -/
theorem answerMessage_eitherOutcomes :
    let q : Inquiry (Datum Rat) Rat := Datum.inquiry fun _ => none
    let options : Options (Datum Rat) := Options.default (α := Rat)
    let first : Outcome Rat := ⟨4, "Model UNBOUNDED or Infeasible", none⟩
    let second : Outcome Rat := ⟨0, "", some [1, 1]⟩
    let message := twoColumns.toDatum .text
    ∃ t, LeadsTo q (.ofMeasures q) options message ⟨twoColumns.program, t⟩ ∧ first.SaysEither ∧
      Decided ⟨twoColumns.program, t⟩ first second
        ((answerMessage q (.ofMeasures q) options (Engine.ofRun prepared).recorded message
          ([first, second], [])).1.mapError Failure.ofVerdict)
        (answerMessage q (.ofMeasures q) options (Engine.ofRun (ε := Failure) prepared).recorded
          message ([first, second], [])).2.2 := by
  intro q options first second message
  have hknown : twoColumns.Known := by
    constructor <;> unfold Message.Mentions <;> decide
  obtain ⟨hleads, hdecided⟩ := answerMessage_decided (δ := Datum Rat) (α := Rat) (β := Rat)
    (σ := List (Outcome Rat))
  obtain ⟨t, ht⟩ : ∃ t, LeadsTo q (.ofMeasures q) options message ⟨twoColumns.program, t⟩ :=
    hleads twoColumns.isMessage_toDatum (List.cons_ne_nil _ _) ⟨rfl, rfl⟩ hknown ⟨_, rfl⟩
  have heither : first.SaysEither := Outcome.isAmbiguous_iff.1 (by decide)
  have hcode : first.code ≠ 0 := by decide
  exact ⟨t, ht, heither, hdecided ht prepared [first, second] fun h => absurd h hcode⟩

end Message

end Program

end Milp
