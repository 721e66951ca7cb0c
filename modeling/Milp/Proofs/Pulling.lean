import Milp.Proofs.Refusing
import Milp.Proofs.Saying

/-!
# Tokens that are pulled one by one

A reading asks for the next token when it takes one, and not before. So if the tokens come to an
end with a failure, nothing comes out, and it depends on where the reading stands which error is
seen: an error of the tokens comes first if it was found before the failure was, by looking at a
token that is not taken, or with another token behind the one to blame. Otherwise the failure comes
first.
-/

namespace Milp

variable {β ε : Type} {mode : Mode}

/-! ### Feeds -/

/-- A feed that does not fail is the feed of its items. -/
theorem Feed.eq_ofList {τ : Type} {feed : Feed τ ε Unit} (h : feed.outcome = .ok ()) :
    feed = .ofList feed.items := by
  induction feed with
  | done r => rfl
  | fail e => cases h
  | next t rest ih => exact congrArg (Feed.next t) (ih h)

/-! ### Which error comes first -/

namespace GrammarError

/-- **The error comes before a failure at the end of the tokens**: the token to blame is not taken,
or there is another one behind it. -/
def Prevails (mode : Mode) (ts : List (Token β)) (g : GrammarError β) : Prop :=
  (∃ k, g = .chainedComparator k ∨ ∃ m, g = .trailing m k) ∨
    ∃ j k, g.token? = some k ∧ ts[j]? = some k ∧ mode.FirstBad ts j ∧ j + 1 < ts.length

theorem taken_of_token? {g : GrammarError β} {k : Token β} (h : g.token? = some k) :
    g.taken = false ↔ ∃ k, g = .chainedComparator k ∨ ∃ m, g = .trailing m k := by
  cases g with
  | endOfInput | undecided e => cases h
  | unexpected k | nestedComparator k => simp [taken]
  | unclosed opening got | missingComparator got =>
    obtain rfl : got = some k := h
    simp [taken]
  | chainedComparator k | trailing m k => simp [taken]

end GrammarError

namespace Reading

variable {feed : Feed (Token β) ε Unit} {e : ε}

/-- Where all tokens can be read the failure is reached. -/
theorem run_of_steps (h : feed.outcome = .error e) {r r' : Reading β}
    (hr : r.steps mode feed.items = .ok r') : r.run mode feed = .error (.feed e) := by
  induction feed generalizing r with
  | done u => cases h
  | fail e' =>
    obtain rfl := Except.error.inj h
    rfl
  | next t rest ih =>
    rw [Feed.items, steps_cons, Except.bind_eq_ok_iff] at hr
    obtain ⟨r₁, h₁, hr⟩ := hr
    rw [run, h₁]
    exact ih h hr

/-- **Where a token is refused**, the failure is reached only if that token was taken and is the
last one. -/
theorem run_of_step (h : feed.outcome = .error e) {r r' : Reading β} {j : Nat} {k : Token β}
    {g : GrammarError β} (hk : feed.items[j]? = some k)
    (hr : r.steps mode (feed.items.take j) = .ok r') (hg : r'.step mode k = .error g) :
    r.run mode feed =
      .error (if g.taken = true ∧ j + 1 = feed.items.length then .feed e else .grammar g) := by
  induction feed generalizing r j with
  | done u => cases h
  | fail e' => cases hk
  | next t rest ih =>
    cases j with
    | zero =>
      obtain rfl : t = k := Option.some.inj hk
      obtain rfl : r = r' := Except.ok.inj hr
      rw [run, hg]
      cases rest with
      | done u => cases h
      | fail e' =>
        obtain rfl := Except.error.inj h
        simp only [Feed.items, List.length_singleton, and_true]
      | next t' rest' =>
        have hlen : ¬ (0 + 1 = (Feed.next t (.next t' rest')).items.length) := by
          simp only [Feed.items, List.length_cons]
          omega
        rw [if_neg fun hc => hlen hc.2]
    | succ j =>
      rw [Feed.items, List.take_succ_cons, steps_cons, Except.bind_eq_ok_iff] at hr
      obtain ⟨r₁, h₁, hr⟩ := hr
      rw [run, h₁]
      refine (ih h hk hr).trans ?_
      simp only [Feed.items, List.length_cons, Nat.add_right_cancel_iff]

end Reading

namespace Mode

variable {feed : Feed (Token β) ε Unit}

/-- An error prevails unless the failure is reached with its token. -/
theorem prevails_iff {ts : List (Token β)} {j : Nat} {k : Token β} {g : GrammarError β}
    (hk : ts[j]? = some k) (hbad : mode.FirstBad ts j) (hg : g.token? = some k) :
    g.Prevails mode ts ↔ ¬ (g.taken = true ∧ j + 1 = ts.length) := by
  have hj : j < ts.length := (List.getElem?_eq_some_iff.1 hk).1
  constructor
  · rintro (huntaken | ⟨i, k', -, -, hi, hlt⟩) ⟨htaken, hlast⟩
    · rw [(GrammarError.taken_of_token? hg).2 huntaken] at htaken
      cases htaken
    · have : i = j := hi.unique hbad
      omega
  · intro h
    cases htaken : g.taken with
    | false => exact .inl ((GrammarError.taken_of_token? hg).1 htaken)
    | true =>
      have hlt : j + 1 < ts.length := by
        have : j + 1 ≠ ts.length := fun hlast => h ⟨htaken, hlast⟩
        omega
      exact .inr ⟨j, k, hg, hk, hbad, hlt⟩

/-- **Reading tokens one by one.** Of a feed that does not fail comes what comes of the list of its
items. Of one that fails comes no result but an error: that of the list of items if it prevails,
and otherwise the failure. -/
theorem parse_feed [Inhabited β]
    (hwords : ∀ k ∈ feed.items, ∀ v e, k.symbol ≠ .operator (.undecided v e)) :
    (feed.outcome = .ok () → mode.parse feed = mode.parse (.ofList feed.items)) ∧
    ∀ e, feed.outcome = .error e → (∀ x, mode.parse feed ≠ .ok x) ∧
      (∀ g, mode.parse (.ofList feed.items : Feed (Token β) ε Unit) = .error (.grammar g) →
        g.Prevails mode feed.items → mode.parse feed = .error (.grammar g)) ∧
      ((∀ g, mode.parse (.ofList feed.items : Feed (Token β) ε Unit) = .error (.grammar g) →
        ¬ g.Prevails mode feed.items) → mode.parse feed = .error (.feed e)) := by
  refine ⟨fun h => congrArg mode.parse (Feed.eq_ofList h), fun e he => ?_⟩
  -- what comes of the list is decided by its steps and by what is seen at their end
  have hlist : mode.parse (.ofList feed.items : Feed (Token β) ε Unit) =
      (Reading.start.steps mode feed.items).mapError .grammar >>= fun r =>
        (r.conclude mode).mapError .grammar := by
    rw [parse_eq, Reading.run_ofList]
  rw [hlist, parse_eq]
  cases hs : Reading.start.steps mode feed.items with
  | ok r =>
    rw [Reading.run_of_steps he hs]
    refine ⟨fun x hx => ?_, fun g hg hprevails => ?_, fun _ => rfl⟩
    · cases hx
    · have hnone : g.token? = none := by
        have hc : r.conclude mode = .error g := by
          cases hc : r.conclude mode with
          | ok y => simp [hc] at hg
          | error g' => simpa [hc] using hg
        exact GrammarError.token?_of_atEnd (Reading.atEnd_of_conclude hc)
      obtain ⟨k, rfl | ⟨m, rfl⟩⟩ | ⟨j, k, hk, -⟩ := hprevails
      · cases hnone
      · cases hnone
      · rw [hnone] at hk
        cases hk
  | error g =>
    obtain ⟨j, k, r, hk, hr, hstep⟩ := Reading.steps_eq_error hs
    have htoken : g.token? = some k := by
      obtain h | ⟨v, e', hv, -⟩ := Reading.token?_of_step hstep
      · exact h
      · exact absurd hv (hwords k (List.mem_of_getElem? hk) v e')
    have hprevails := prevails_iff hk (firstBad_of_step hk hr hstep) htoken
    rw [Reading.run_of_step he hk hr hstep]
    refine ⟨fun x hx => ?_, fun g' hg' hp => ?_, fun hnot => ?_⟩
    · cases hx
    · obtain rfl : g = g' := by simpa using Except.error.inj hg'
      rw [if_neg (hprevails.1 hp)]
      rfl
    · have hnot := hnot g rfl
      rw [hprevails, not_not] at hnot
      rw [if_pos hnot]
      rfl

end Mode

/-! ### The tokens of a template -/

section Scan

variable {ω κ : Type} {value : Numeral → β} {P : Token β → Prop}

/-- What all tokens of lexemes are, the tokens of a segment are. -/
theorem forall_mem_scanSegment
    (hlexeme : ∀ (l : Lexeme) place complete, ∀ k ∈ l.tokens value place complete, P k)
    {segment skip column : Nat} {complete : Bool} {cs : List Char} :
    ∀ k ∈ (scanSegment mode value segment skip complete column cs).items, P k := by
  induction cs generalizing skip complete column with
  | nil => cases skip <;> exact fun k hk => absurd hk List.not_mem_nil
  | cons c cs ih =>
    cases skip with
    | succ skip => exact ih
    | zero =>
      rw [scanSegment]
      split
      · exact ih
      · split
        · exact fun k hk => absurd hk List.not_mem_nil
        · next l _ =>
          intro k hk
          rw [Feed.followedBy, Feed.items_andThen, Feed.outcome_ofList, Feed.items_ofList] at hk
          obtain hk | hk := List.mem_append.1 hk
          · exact hlexeme l _ _ k hk
          · exact ih k hk

variable {read : ω → Except κ (Symbol β)} {source : Except κ String}

/-- What all tokens of lexemes and operands are, the tokens of a template are. -/
theorem forall_mem_scanFrom
    (hlexeme : ∀ (l : Lexeme) place complete, ∀ k ∈ l.tokens value place complete, P k)
    (hoperand : ∀ o s place, read o = .ok s → P ⟨s, place⟩)
    {index : Nat} {complete : Bool} {segment : String} {rest : List (ω × String)} :
    ∀ k ∈ (scanFrom mode value read source index complete segment rest).items, P k := by
  induction rest generalizing index complete segment with
  | nil =>
    intro k hk
    rw [scanFrom, Feed.items_andThen, Feed.items_mapError] at hk
    obtain hk | hk := List.mem_append.1 hk
    · exact forall_mem_scanSegment hlexeme k hk
    · split at hk <;> exact absurd hk List.not_mem_nil
  | cons p rest ih =>
    obtain ⟨o, next⟩ := p
    intro k hk
    rw [scanFrom, Feed.items_andThen, Feed.items_mapError] at hk
    obtain hk | hk := List.mem_append.1 hk
    · exact forall_mem_scanSegment hlexeme k hk
    · split at hk
      · cases ho : read o with
        | error e =>
          rw [ho] at hk
          exact absurd hk List.not_mem_nil
        | ok s =>
          rw [ho] at hk
          obtain rfl | hk := List.mem_cons.1 hk
          · exact hoperand o s _ ho
          · exact ih k hk
      · exact absurd hk List.not_mem_nil

end Scan

namespace Template

variable {ν α : Type} [Name ν] [Scalar α]

/-- The operators of a template are texts. -/
theorem decided_tokens (name : Var → ν) (mode : Mode) (t : Template (Operand ν α)) :
    ∀ k ∈ (t.tokens name mode).items, ∀ v e, k.symbol ≠ .operator (.undecided v e) := by
  refine forall_mem_scanFrom (fun l place complete k hk v e h => ?_)
    fun o s place ho v e h => ?_
  · cases l with
    | numeral n =>
      rw [Lexeme.tokens] at hk
      split at hk
      · obtain rfl | hk := List.mem_cons.1 hk
        · cases h
        · obtain rfl := List.mem_singleton.1 hk
          cases h
      · obtain rfl := List.mem_singleton.1 hk
        cases h
    | operator c | opening | closing | comparator s =>
      obtain rfl := List.mem_singleton.1 hk
      cases h
  · obtain rfl : s = .operator (.undecided v e) := h
    exact absurd (Operand.isValue_symbol ho) Bool.false_ne_true

instance : Inhabited (Operand ν α) := ⟨.var ⟨0⟩⟩

/-- **Pulling the tokens of a template changes which error is seen, and nothing else.** If all of
the template has tokens, the same comes of them one by one as of their list. If there is a failure
after some tokens, no result comes but an error: that of the list of these tokens if it prevails,
and otherwise the failure. -/
theorem parse_tokens (name : Var → ν) (mode : Mode) (t : Template (Operand ν α)) :
    ((t.tokens name mode).outcome = .ok () →
      mode.parse (t.tokens name mode) = mode.parse (.ofList (t.tokens name mode).items)) ∧
    ∀ e, (t.tokens name mode).outcome = .error e →
      (∀ x, mode.parse (t.tokens name mode) ≠ .ok x) ∧
      (∀ g, mode.parse (.ofList (t.tokens name mode).items : Feed _ (ScanError AlgebraError) _) =
          .error (.grammar g) →
        g.Prevails mode (t.tokens name mode).items →
        mode.parse (t.tokens name mode) = .error (.grammar g)) ∧
      ((∀ g, mode.parse (.ofList (t.tokens name mode).items : Feed _ (ScanError AlgebraError) _) =
          .error (.grammar g) → ¬ g.Prevails mode (t.tokens name mode).items) →
        mode.parse (t.tokens name mode) = .error (.feed e)) :=
  Mode.parse_feed (t.decided_tokens name mode)

/-- `{}{}$`, with a variable at both placeholders. -/
def besideAndStray : Template (Operand String Rat) := ⟨"", [(.var ⟨0⟩, ""), (.var ⟨0⟩, "$")]⟩

/-- `*$`. -/
def timesAndStray : Template (Operand String Rat) := ⟨"*$", []⟩

/-- That two operands stand side by side is seen before the character that starts no lexeme; that
nothing stands in front of a factor is not, where that character comes next. -/
theorem parse_strays :
    (∃ g, Mode.expression.parse (besideAndStray.tokens (fun _ => "x") .expression) =
      .error (.grammar g)) ∧
    ∃ e, Mode.expression.parse (timesAndStray.tokens (fun _ => "x") .expression) =
      .error (.feed e) := by
  constructor
  · obtain ⟨-, hprevails, -⟩ := (parse_tokens (fun _ => "x") .expression besideAndStray).2 _ rfl
    exact ⟨_, hprevails _ rfl (.inl ⟨_, .inr ⟨_, rfl⟩⟩)⟩
  · obtain ⟨-, -, hfails⟩ := (parse_tokens (fun _ => "x") .expression timesAndStray).2 _ rfl
    refine ⟨_, hfails fun g hg hprevails => ?_⟩
    have hg : (.error (.grammar (.unexpected ⟨.operator (.text "*"), some 0, some 0⟩)) :
        Except (ReadError (ScanError AlgebraError) (Operand String Rat)) _) =
          .error (.grammar g) := hg
    obtain rfl := ReadError.grammar.inj (Except.error.inj hg)
    obtain ⟨k, h | ⟨m, h⟩⟩ | ⟨j, k, -, -, -, hlt⟩ := hprevails
    · cases h
    · cases h
    · change j + 1 < 1 at hlt
      omega

end Template

end Milp
