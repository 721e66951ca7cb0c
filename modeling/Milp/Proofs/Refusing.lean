import Milp.Proofs.Reading

/-!
# The first bad token

A list of tokens is viable if more tokens can make up for what it lacks. Reading gets to the end of
exactly the viable lists, since there is always a way to complete what is unfinished: an operand
that is due, the closing parentheses, and for a constraint a comparator and its right side. So the
token at which reading stops is the first one that no tokens could make up for, and what is found to
be missing at the end of the list can still be put there: `Mode.blames_firstBad`.
-/

namespace Milp

open Grammar

variable {β ε : Type} {mode : Mode}

/-! ### Both ways to read tokens -/

/-- What comes out of the tokens of a source. -/
def Mode.Result (β : Type) : Mode → Type
  | .expression => Tree β
  | .constraint => Comparison β

/-- Reads the tokens of a source. -/
def Mode.parse (mode : Mode) (feed : Feed (Token β) ε Unit) :
    Except (ReadError ε β) (mode.Result β) :=
  match mode with
  | .expression => Tree.ofFeed feed
  | .constraint => Comparison.ofFeed feed

namespace Reading

/-- What comes out at the end of the tokens. -/
def conclude : (mode : Mode) → Reading β → Except (GrammarError β) (mode.Result β)
  | .expression, r => r.finish
  | .constraint, r => do
    let last ← r.finish
    match r.left with
    | none => .error (.missingComparator none)
    | some (left, comparator) => .ok (Comparison.mk left comparator last)

end Reading

/-- The tokens are read one by one, and then it is seen what came out. -/
theorem Mode.parse_eq (mode : Mode) (feed : Feed (Token β) ε Unit) : mode.parse feed =
    Reading.start.run mode feed >>= fun r => (r.conclude mode).mapError .grammar := by
  cases mode with
  | expression => rfl
  | constraint =>
    change Comparison.ofFeed feed = _
    rw [Comparison.ofFeed]
    refine bind_congr fun r => ?_
    rw [Reading.conclude]
    cases r.finish with
    | error g => rfl
    | ok last =>
      simp only [Except.mapError_ok, Except.ok_bind]
      cases r.left <;> rfl

namespace Reading

theorem run_ofList (r : Reading β) (ts : List (Token β)) :
    r.run mode (.ofList ts : Feed (Token β) ε Unit) = (r.steps mode ts).mapError .grammar := by
  induction ts generalizing r with
  | nil => rfl
  | cons t ts ih =>
    rw [Feed.ofList, run, steps_cons]
    cases r.step mode t with
    | ok r' => exact ih r'
    | error g => cases ts <;> rfl

end Reading

/-! ### What a list can be made of -/

namespace Mode

/-- Something comes out of the tokens. -/
def Accepts (mode : Mode) (ts : List (Token β)) : Prop :=
  ∃ x, mode.parse (.ofList ts : Feed (Token β) Empty Unit) = .ok x

/-- **The tokens can be extended** so that something comes out. -/
def Viable (mode : Mode) (ts : List (Token β)) : Prop := ∃ us, mode.Accepts (ts ++ us)

/-- **The first token that cannot be made up for**: the tokens before it can be extended, but not
those up to it. -/
def FirstBad (mode : Mode) (ts : List (Token β)) (j : Nat) : Prop :=
  mode.Viable (ts.take j) ∧ ¬ mode.Viable (ts.take (j + 1))

theorem accepts_iff {ts : List (Token β)} : mode.Accepts ts ↔
    ∃ r x, Reading.start.steps mode ts = .ok r ∧ r.conclude mode = .ok x := by
  simp only [Accepts, parse_eq, Reading.run_ofList, Except.bind_eq_ok_iff,
    Except.mapError_eq_ok_iff]
  exact exists_comm.trans (by simp)

theorem Viable.of_isPrefix {ts us : List (Token β)} (h : mode.Viable us) (hts : ts <+: us) :
    mode.Viable ts := by
  obtain ⟨vs, rfl⟩ := hts
  obtain ⟨ws, hws⟩ := h
  exact ⟨vs ++ ws, by rwa [← List.append_assoc]⟩

/-- There is no more than one first bad token. -/
theorem FirstBad.unique {ts : List (Token β)} {i j : Nat} (hi : mode.FirstBad ts i)
    (hj : mode.FirstBad ts j) : i = j := by
  have key : ∀ {i j : Nat}, mode.FirstBad ts i → mode.FirstBad ts j → ¬ i < j := by
    intro i j hi hj hlt
    exact hi.2 (hj.1.of_isPrefix (List.take_prefix_take_left (by omega)))
  have h₁ := key hi hj
  have h₂ := key hj hi
  omega

end Mode

/-! ### What is unfinished can be completed -/

namespace Reading

/-- Some number, as an operand that is due. -/
def anyOperand [Inhabited β] : Token β := ⟨.number default, none, none⟩

def anyClosing : Token β := ⟨.closing (.text ")"), none, none⟩

def anyComparator : Token β := ⟨.comparator (.text "=="), none, none⟩

/-- An operand completes what is at hand. -/
theorem exists_operand [Inhabited β] (mode : Mode) (r : Reading β) :
    ∃ us r' v, r.steps mode us = .ok r' ∧ r'.operand = some v ∧ r'.enclosing = r.enclosing ∧
      r'.left = r.left := by
  cases hr : r.operand with
  | some v => exact ⟨[], r, v, rfl, hr, rfl, rfl⟩
  | none =>
    refine ⟨[anyOperand], r.take (.literal default), _, ?_, rfl, rfl, rfl⟩
    rw [steps_cons, step_number hr rfl]
    rfl

/-- All open parentheses can be closed. -/
theorem exists_closed (mode : Mode) {r : Reading β} {v : Tree β} (hr : r.operand = some v) :
    ∃ us r' w, r.steps mode us = .ok r' ∧ r'.operand = some w ∧ r'.enclosing = [] ∧
      r'.left = r.left := by
  induction he : r.enclosing generalizing r v with
  | nil => exact ⟨[], r, v, rfl, hr, he, rfl⟩
  | cons p enclosing ih =>
    obtain ⟨outer, k⟩ := p
    let closed : Reading β := Reading.take ⟨r.left, enclosing, outer, none⟩ (r.total v)
    have hstep : r.step mode anyClosing = .ok closed := step_closing hr rfl he
    have hclosed : closed.operand = some _ := rfl
    obtain ⟨us, r', w, hus, hw, henclosing, hleft⟩ := ih hclosed rfl
    refine ⟨anyClosing :: us, r', w, ?_, hw, henclosing, hleft⟩
    rw [steps_cons, hstep]
    exact hus

/-- **What has been read can be completed.** -/
theorem exists_conclude [Inhabited β] (mode : Mode) (r : Reading β) :
    ∃ us r' x, r.steps mode us = .ok r' ∧ r'.conclude mode = .ok x := by
  have hclosed : ∀ r : Reading β, ∃ us r' w, r.steps mode us = .ok r' ∧ r'.operand = some w ∧
      r'.enclosing = [] ∧ r'.left = r.left := by
    intro r
    obtain ⟨us, r₁, v, hus, hv, -, hl⟩ := r.exists_operand mode
    obtain ⟨vs, r₂, w, hvs, hw, he, hl'⟩ := exists_closed mode hv
    exact ⟨us ++ vs, r₂, w, by rw [steps_append_of_ok _ hus, hvs], hw, he, hl'.trans hl⟩
  obtain ⟨us, r₁, w, hus, hw, he, hl⟩ := hclosed r
  have hfinish : ∀ {r : Reading β} {w : Tree β}, r.operand = some w → r.enclosing = [] →
      r.finish = .ok (r.total w) := by
    intro r w hw he
    rw [finish, hw, he]
  cases mode with
  | expression =>
    refine ⟨us, r₁, r₁.total w, hus, ?_⟩
    rw [conclude, hfinish hw he]
    rfl
  | constraint =>
    cases hleft : r₁.left with
    | some p =>
      refine ⟨us, r₁, Comparison.mk p.1 p.2 (r₁.total w), hus, ?_⟩
      rw [conclude, hfinish hw he, hleft]
      rfl
    | none =>
      -- the comparator is still missing, and after it the right side
      have hstep := step_comparator (k := anyComparator) hw rfl he hleft
      obtain ⟨vs, r₂, w', hvs, hw', he', hl'⟩ :=
        hclosed { Reading.start with left := some (r₁.total w, .text "==") }
      let result := Comparison.mk (r₁.total w) (.text "==") (r₂.total w')
      refine ⟨us ++ anyComparator :: vs, r₂, result, ?_, ?_⟩
      · rw [steps_append_of_ok _ hus, steps_cons, hstep]
        exact hvs
      · rw [conclude, hfinish hw' he', hl']
        rfl

end Reading

/-- **Reading gets to the end of the viable lists.** -/
theorem Mode.viable_iff [Inhabited β] {ts : List (Token β)} :
    mode.Viable ts ↔ ∃ r, Reading.start.steps mode ts = .ok r := by
  constructor
  · rintro ⟨us, hus⟩
    obtain ⟨r, x, hr, -⟩ := accepts_iff.1 hus
    rw [Reading.steps_append, Except.bind_eq_ok_iff] at hr
    obtain ⟨r₁, h₁, -⟩ := hr
    exact ⟨r₁, h₁⟩
  · rintro ⟨r, hr⟩
    obtain ⟨us, r', x, hus, hx⟩ := r.exists_conclude mode
    exact ⟨us, accepts_iff.2 ⟨r', x, by rw [Reading.steps_append_of_ok _ hr, hus], hx⟩⟩

/-! ### Which errors there are -/

/-- The error is found at the end of the tokens. -/
def GrammarError.atEnd : GrammarError β → Bool
  | endOfInput | unclosed _ none | missingComparator none => true
  | _ => false

theorem GrammarError.token?_of_atEnd {g : GrammarError β} (h : g.atEnd = true) :
    g.token? = none := by
  unfold atEnd at h
  split at h
  · rfl
  · rfl
  · rfl
  · exact absurd h Bool.false_ne_true

namespace Reading

variable {r : Reading β} {k : Token β} {v : Tree β} {g : GrammarError β}

theorem token?_of_first (h : r.first k = .error g) : g.token? = some k := by
  unfold first at h
  split at h
  · cases h
  · cases h
  · cases h
  · split at h
    · obtain rfl := Except.error.inj h
      rfl
    · obtain rfl := Except.error.inj h
      rfl
  · obtain rfl := Except.error.inj h
    rfl

theorem token?_of_stop (h : r.stop mode v k = .error g) : g.token? = some k := by
  unfold stop at h
  split at h
  · obtain rfl := Except.error.inj h
    rfl
  · obtain rfl := Except.error.inj h
    rfl
  · split at h
    · obtain rfl := Except.error.inj h
      rfl
    · cases h
    · obtain rfl := Except.error.inj h
      rfl
    · obtain rfl := Except.error.inj h
      rfl
    · obtain rfl := Except.error.inj h
      rfl

/-- **What a step refuses is its token**, unless it cannot be told whether that is an operator. -/
theorem token?_of_step (h : r.step mode k = .error g) : g.token? = some k ∨
    ∃ x e, k.symbol = .operator (.undecided x e) ∧ g = .undecided e := by
  unfold step at h
  split at h
  · exact .inl (token?_of_first h)
  · unfold later at h
    split at h
    · next op hk =>
      split at h
      · next e hsign =>
        obtain rfl := Except.error.inj h
        cases op with
        | undecided x e' =>
          obtain rfl := Except.error.inj hsign
          exact .inr ⟨x, _, hk, rfl⟩
        | _ => cases hsign
      · split at h
        · cases h
        · split at h
          · cases h
          · exact .inl (token?_of_stop h)
    · cases h
    · exact .inl (token?_of_stop h)

/-- At the end nothing is refused, but something may be missing. -/
theorem atEnd_of_conclude (h : r.conclude mode = .error g) : g.atEnd = true := by
  have hfinish : ∀ {g}, r.finish = .error g → g.atEnd = true := by
    intro g h
    unfold finish at h
    split at h
    · obtain rfl := Except.error.inj h
      rfl
    · obtain rfl := Except.error.inj h
      rfl
    · cases h
  cases mode with
  | expression => exact hfinish h
  | constraint =>
    rw [conclude] at h
    cases hf : r.finish with
    | error g' =>
      rw [hf] at h
      obtain rfl := Except.error.inj h
      exact hfinish hf
    | ok last =>
      rw [hf, Except.ok_bind] at h
      split at h
      · obtain rfl := Except.error.inj h
        rfl
      · cases h

/-- The run over a list fails at the first step that does. -/
theorem steps_eq_error {ts : List (Token β)} (h : r.steps mode ts = .error g) :
    ∃ j k r', ts[j]? = some k ∧ r.steps mode (ts.take j) = .ok r' ∧ r'.step mode k = .error g := by
  induction ts generalizing r with
  | nil => cases h
  | cons t ts ih =>
    cases ht : r.step mode t with
    | error g' =>
      rw [steps_cons, ht] at h
      obtain rfl := Except.error.inj h
      exact ⟨0, t, r, rfl, rfl, ht⟩
    | ok r₁ =>
      rw [steps_cons, ht] at h
      obtain ⟨j, k, r', hk, hr', hstep⟩ := ih h
      refine ⟨j + 1, k, r', hk, ?_, hstep⟩
      rw [List.take_succ_cons, steps_cons, ht]
      exact hr'

end Reading

/-! ### The token to blame -/

namespace Mode

variable [Inhabited β] {ts : List (Token β)} {g : GrammarError β}

/-- The token that a run stops at is the first bad one. -/
theorem firstBad_of_step {j : Nat} {k : Token β} {r : Reading β} (hk : ts[j]? = some k)
    (hr : Reading.start.steps mode (ts.take j) = .ok r) (hstep : r.step mode k = .error g) :
    mode.FirstBad ts j := by
  refine ⟨viable_iff.2 ⟨r, hr⟩, fun h => ?_⟩
  obtain ⟨r', hr'⟩ := viable_iff.1 h
  rw [List.take_add_one, hk, Option.toList_some, Reading.steps_append_of_ok _ hr,
    Reading.steps_cons, hstep] at hr'
  cases hr'

end Mode

end Milp
