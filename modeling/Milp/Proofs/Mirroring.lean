import Milp.Proofs.Joining
import Milp.Proofs.Nesting
import Milp.Proofs.Refusing

/-!
# Readings that mirror each other

Two sources that differ in one summand, which is added in the one and whose counterpart is
subtracted in the other, are read in the same way. Their trees differ in that summand, and what is
unfinished differs with them: while the summand is read, the pending sums have different signs and
the products at hand are counterparts. Once it is complete, the sums of the two sides are alike
again. What has to be known of trees is that sums of what is alike are alike and that products of
counterparts with what is alike are counterparts: `Reading.Mirrors.run`.
-/

namespace Milp

open Grammar
open Feed (Along Ended)

variable {β ε ε' α α' γ γ' : Type} {mode : Mode}

/-! ### Results that are alike -/

/-- **Both succeed with what `A` relates, or both fail** with errors that `E` relates. -/
inductive Except.Alike (E : ε → ε' → Prop) (A : α → α' → Prop) :
    Except ε α → Except ε' α' → Prop
  | ok {a a'} : A a a' → Alike E A (.ok a) (.ok a')
  | error {e e'} : E e e' → Alike E A (.error e) (.error e')

namespace Except.Alike

variable {φ φ' : Type} {E : ε → ε' → Prop} {A : α → α' → Prop} {x : Except ε α} {x' : Except ε' α'}

theorem bind {C : γ → γ' → Prop} {f : α → Except ε γ} {f' : α' → Except ε' γ'}
    (h : Except.Alike E A x x') (hf : ∀ a a', A a a' → Except.Alike E C (f a) (f' a')) :
    Except.Alike E C (x >>= f) (x' >>= f') := by
  cases h with
  | ok h => exact hf _ _ h
  | error h => exact .error h

theorem ok_or_error (h : Except.Alike E A x x') :
    (∃ a a', x = .ok a ∧ x' = .ok a' ∧ A a a') ∨
      ∃ e e', x = .error e ∧ x' = .error e' ∧ E e e' := by
  cases h with
  | ok h => exact .inl ⟨_, _, rfl, rfl, h⟩
  | error h => exact .inr ⟨_, _, rfl, rfl, h⟩

theorem mapError {F : φ → φ' → Prop} {m : ε → φ} {m' : ε' → φ'} (h : Except.Alike E A x x')
    (hm : ∀ e e', E e e' → F (m e) (m' e')) :
    Except.Alike F A (x.mapError m) (x'.mapError m') := by
  cases h with
  | ok h => exact .ok h
  | error h => exact .error (hm _ _ h)

end Except.Alike

/-- The errors are of one class, and found with the same tokens asked for. -/
def GrammarError.SameClass (g g' : GrammarError β) : Prop :=
  g.errorClass = g'.errorClass ∧ g.taken = g'.taken

/-! ### What is unfinished -/

variable {R X Y : Tree β → Tree β → Prop}

/-- Products of what `X` relates with what `R` relates are related by `X` again. -/
def Tree.Multiplies (R X : Tree β → Tree β → Prop) : Prop :=
  ∀ {op t t' u u'}, JoinsFactors op → X t t' → R u u' → X (.binary op t u) (.binary op t' u')

/-- Sums of what `R` relates with what `X` relates, with one operation on the one side and another
one on the other side, are related by `R`. -/
def Tree.Exchanges (R X : Tree β → Tree β → Prop) (op op' : Word β) : Prop :=
  ∀ {t t' u u'}, R t t' → X u u' → R (.binary op t u) (.binary op' t' u')

theorem Tree.Congruent.multiplies (hR : Tree.Congruent R) : Tree.Multiplies R R :=
  fun _ ht hu => hR.binary ht hu

/-- Last summands that `X` relates complete sums that `R` relates. -/
structure Level.Sums (R X : Tree β → Tree β → Prop) (l l' : Level β) : Prop where
  multiplies : Tree.Multiplies R X
  sum : ∀ {t t'}, X t t' → R (Pending.close l.sum t) (Pending.close l'.sum t')

/-- Last factors that `R` relates complete products that `X` relates, and so the sums. -/
structure Level.Awaits (R X : Tree β → Tree β → Prop) (l l' : Level β) : Prop
    extends Level.Sums R X l l' where
  product : ∀ {t t'}, R t t' → X (Pending.close l.product t) (Pending.close l'.product t')
  fresh : l.isFresh = l'.isFresh

/-- What is finished or waits outside of the present levels. -/
structure Reading.Around (R : Tree β → Tree β → Prop) (left left' : Option (Tree β × Word β))
    (enclosing enclosing' : List (Level β × Token β)) : Prop where
  left : Option.Rel (fun p p' => R p.1 p'.1 ∧ p.2 = p'.2) left left'
  enclosing : List.Forall₂ (fun p p' => ∃ X, Level.Awaits R X p.1 p'.1) enclosing enclosing'

/-- **The readings mirror each other**: whatever comes next, the sides are completed with trees that
`R` relates. -/
inductive Reading.Mirrors (R : Tree β → Tree β → Prop) : Reading β → Reading β → Prop
  | due {left left' enclosing enclosing' l l'} (X : Tree β → Tree β → Prop) :
      Around R left left' enclosing enclosing' → Level.Awaits R X l l' →
      Mirrors R ⟨left, enclosing, l, none⟩ ⟨left', enclosing', l', none⟩
  | complete {left left' enclosing enclosing' l l' v v'} (X : Tree β → Tree β → Prop) :
      Around R left left' enclosing enclosing' → Level.Sums R X l l' → X v v' →
      Mirrors R ⟨left, enclosing, l, some v⟩ ⟨left', enclosing', l', some v'⟩

namespace Reading

section Around

variable {left left' : Option (Tree β × Word β)} {enclosing enclosing' : List (Level β × Token β)}
  {l l' : Level β}

theorem Around.isSome_eq (h : Around R left left' enclosing enclosing') :
    left.isSome = left'.isSome := by
  cases h.left <;> rfl

theorem Around.isEmpty_eq (h : Around R left left' enclosing enclosing') :
    enclosing.isEmpty = enclosing'.isEmpty := by
  cases h.enclosing <;> rfl

variable (hR : Tree.Congruent R)

include hR

theorem awaits_fresh : Level.Awaits R R (.fresh : Level β) .fresh :=
  ⟨⟨hR.multiplies, id⟩, id, rfl⟩

/-- A level after the sign of a sum. -/
theorem awaits_sum {op : Word β} {t t' : Tree β} (ht : R t t') :
    Level.Awaits R R (⟨some ⟨t, op⟩, none⟩ : Level β) ⟨some ⟨t', op⟩, none⟩ :=
  ⟨⟨hR.multiplies, hR.binary ht⟩, id, rfl⟩

/-- Nothing has been read in either of them. -/
theorem mirrors_start : Mirrors R (start : Reading β) start :=
  .due R ⟨.none, .nil⟩ (awaits_fresh hR)

omit hR

/-- An operand that was due. -/
theorem mirrors_take {o o' : Option (Tree β)} {t t' : Tree β}
    (h : Around R left left' enclosing enclosing') (hl : Level.Awaits R X l l') (ht : R t t') :
    Mirrors R (take ⟨left, enclosing, l, o⟩ t) (take ⟨left', enclosing', l', o'⟩ t') :=
  .complete X h ⟨hl.multiplies, hl.sum⟩ (hl.product ht)

end Around

namespace Mirrors

variable {r r' : Reading β} {k k' : Token β} {v v' : Tree β}

section Step

variable (hR : Tree.Congruent R) (h : Mirrors R r r') (hk : k.symbol = k'.symbol)

include h hk

/-- What stops a level in the one stops it in the other one. -/
theorem stop (hR : Tree.Congruent R) (hr : r.operand = some v) (hr' : r'.operand = some v') :
    Except.Alike GrammarError.SameClass (Mirrors R) (r.stop mode v k) (r'.stop mode v' k') := by
  cases h with
  | due => cases hr
  | @complete left left' enclosing enclosing' l l' _ _ X h hl hv =>
    obtain rfl := Option.some.inj hr
    obtain rfl := Option.some.inj hr'
    obtain ⟨hleft, henclosing⟩ := h
    unfold Reading.stop
    rw [← hk]
    cases henclosing with
    | cons _ _ => cases k.symbol <;> exact .error ⟨rfl, rfl⟩
    | nil =>
      cases mode with
      | expression => exact .error ⟨rfl, rfl⟩
      | constraint =>
        cases hleft with
        | some _ => cases k.symbol <;> exact .error ⟨rfl, rfl⟩
        | none =>
          cases k.symbol with
          | comparator c =>
            exact .ok (.due R ⟨.some ⟨hl.sum hv, rfl⟩, .nil⟩ (awaits_fresh hR))
          | _ => exact .error ⟨rfl, rfl⟩

include hR

/-- Where an operand is due in both. -/
theorem first (hr : r.operand = none) :
    Except.Alike GrammarError.SameClass (Mirrors R) (r.first k) (r'.first k') := by
  cases h with
  | complete => cases hr
  | due X h hl =>
    unfold Reading.first
    rw [← hk]
    cases k.symbol with
    | number v => exact .ok (mirrors_take h hl (hR.refl _))
    | expression v => exact .ok (mirrors_take h hl (hR.refl _))
    | opening w =>
      exact .ok (.due R ⟨h.left, .cons ⟨X, hl⟩ h.enclosing⟩ (awaits_fresh hR))
    | operator w => exact .error ⟨rfl, rfl⟩
    | closing w => exact .error ⟨rfl, rfl⟩
    | comparator w =>
      simp only [h.isSome_eq, h.isEmpty_eq, hl.fresh]
      split <;> exact .error ⟨rfl, rfl⟩

/-- After an operand that is complete in both. -/
theorem later (hr : r.operand = some v) (hr' : r'.operand = some v') :
    Except.Alike GrammarError.SameClass (Mirrors R) (r.later mode v k) (r'.later mode v' k') := by
  have hstop : Except.Alike GrammarError.SameClass (Mirrors R) (r.stop mode v k)
      (r'.stop mode v' k') := h.stop hk hR hr hr'
  cases h with
  | due => cases hr
  | complete X h hl hv =>
    obtain rfl := Option.some.inj hr
    obtain rfl := Option.some.inj hr'
    unfold Reading.later
    rw [← hk]
    cases k.symbol with
    | operator op =>
      cases hsign : op.sign with
      | error e =>
        simp only [hsign]
        exact .error ⟨rfl, rfl⟩
      | ok sign =>
        simp only [hsign]
        split
        · next hm =>
          have hop : JoinsFactors op := by
            rcases hm with rfl | rfl <;> simp [JoinsFactors, hsign]
          exact .ok (.due X h
            ⟨⟨hl.multiplies, hl.sum⟩, hl.multiplies hop hv, by simp [Level.isFresh]⟩)
        · split
          · exact .ok (.due R h (awaits_sum hR (hl.sum hv)))
          · exact hstop
    | closing w =>
      obtain ⟨hleft, henclosing⟩ := h
      cases henclosing with
      | nil => exact hstop
      | cons hout hrest =>
        obtain ⟨Y, hY⟩ := hout
        exact .ok (mirrors_take ⟨hleft, hrest⟩ hY (hl.sum hv))
    | number _ => exact hstop
    | expression _ => exact hstop
    | opening _ => exact hstop
    | comparator _ => exact hstop

/-- **A step in the one is a step in the other.** -/
theorem step : Except.Alike GrammarError.SameClass (Mirrors R) (r.step mode k)
    (r'.step mode k') := by
  unfold Reading.step
  cases h with
  | due X h hl => exact first hR (.due X h hl) hk rfl
  | complete X h hl hv => exact later hR (.complete X h hl hv) hk rfl rfl

end Step

/-- At the end of the tokens. -/
theorem finish (h : Mirrors R r r') :
    Except.Alike GrammarError.SameClass R r.finish r'.finish := by
  cases h with
  | due => exact .error ⟨rfl, rfl⟩
  | complete X h hl hv =>
    obtain ⟨-, henclosing⟩ := h
    cases henclosing with
    | nil => exact .ok (hl.sum hv)
    | cons _ _ => exact .error ⟨rfl, rfl⟩

end Mirrors

end Reading

/-- What comes out of a source, with trees that `R` relates. -/
def Mode.Mirrors (R : Tree β → Tree β → Prop) : (mode : Mode) → mode.Result β → mode.Result β → Prop
  | .expression, t, t' => R t t'
  | .constraint, c, c' => R c.left c'.left ∧ c.comparator = c'.comparator ∧ R c.right c'.right

theorem Reading.Mirrors.conclude {r r' : Reading β} (h : Mirrors R r r') :
    Except.Alike GrammarError.SameClass (mode.Mirrors R) (r.conclude mode) (r'.conclude mode) := by
  have hfinish := h.finish
  cases mode with
  | expression => exact hfinish
  | constraint =>
    refine hfinish.bind fun t t' ht => ?_
    have hleft : Option.Rel (fun p p' => R p.1 p'.1 ∧ p.2 = p'.2) r.left r'.left := by
      cases h with
      | due _ h _ => exact h.left
      | complete _ h _ _ => exact h.left
    generalize r.left = left at hleft ⊢
    generalize r'.left = left' at hleft ⊢
    cases hleft with
    | none => exact .error ⟨rfl, rfl⟩
    | some hp => exact .ok ⟨hp.1, hp.2, ht⟩

/-! ### Feeds -/

/-- Both fail in the feed, with errors that `E` relates, or both in the grammar. -/
inductive ReadError.Alike (E : ε → ε' → Prop) : ReadError ε β → ReadError ε' β → Prop
  | feed {e e'} : E e e' → Alike E (.feed e) (.feed e')
  | grammar {g g'} : GrammarError.SameClass g g' → Alike E (.grammar g) (.grammar g')

/-- Next is an operation and a number in each of the feeds, and then they go along with each other
to their ends. -/
inductive Feed.Exchanged (E : ε → ε' → Prop) (op op' : Word β) (x x' : β) :
    Feed (Token β) ε Unit → Feed (Token β) ε' Unit → Prop
  | mk {a b a' b' f f'} : a.symbol = .operator op → b.symbol = .number x →
      a'.symbol = .operator op' → b'.symbol = .number x' → Along E Ended f f' →
      Exchanged E op op' x x' (.next a (.next b f)) (.next a' (.next b' f'))

namespace Reading

variable {r r' s : Reading β} {k : Token β} {g : GrammarError β} {f : Feed (Token β) ε Unit}
  {f' : Feed (Token β) ε' Unit}

theorem run_next_of_ok (h : r.step mode k = .ok s) : r.run mode (.next k f) = s.run mode f := by
  rw [run, h]

theorem run_next_of_error (h : r.step mode k = .error g) (hf : ∀ e, f ≠ .fail e) :
    r.run mode (.next k f) = .error (.grammar g) := by
  rw [run, h]
  cases f with
  | done _ => rfl
  | fail e => exact absurd rfl (hf e)
  | next _ _ => rfl

/-- An operator is refused where an operand is due. -/
theorem step_operator_due {w : Word β} (hr : r.operand = none) (hk : k.symbol = .operator w) :
    r.step mode k = .error (.unexpected k) := by
  rw [step, hr]
  simp only [first, hk]

namespace Mirrors

variable {E : ε → ε' → Prop} {B : Feed (Token β) ε Unit → Feed (Token β) ε' Unit → Prop}

/-- **Feeds that go along with each other are read alike**, if what is left of them is. -/
theorem run (hR : Tree.Congruent R) (hf : Along E B f f')
    (hfail : ∀ f f', B f f' → (∀ e, f ≠ .fail e) ∧ ∀ e, f' ≠ .fail e)
    (hB : ∀ f f', B f f' → ∀ r r', Mirrors R r r' →
      Except.Alike (ReadError.Alike E) (Mirrors R) (r.run mode f) (r'.run mode f'))
    (h : Mirrors R r r') :
    Except.Alike (ReadError.Alike E) (Mirrors R) (r.run mode f) (r'.run mode f') := by
  induction hf generalizing r r' with
  | here hb => exact hB _ _ hb r r' h
  | fail he => exact .error (.feed he)
  | @next k k' f f' hk hf ih =>
    have hstep : Except.Alike GrammarError.SameClass (Mirrors R) (r.step mode k)
        (r'.step mode k') := h.step hR hk
    obtain ⟨s, s', hs, hs', h⟩ | ⟨g, g', hs, hs', hg⟩ := hstep.ok_or_error
    · rw [run_next_of_ok hs, run_next_of_ok hs']
      exact ih h
    · cases hf with
      | here hb =>
        obtain ⟨hne, hne'⟩ := hfail _ _ hb
        rw [run_next_of_error hs hne, run_next_of_error hs' hne']
        exact .error (.grammar hg)
      | next _ _ =>
        rw [run_next_of_error hs nofun, run_next_of_error hs' nofun]
        exact .error (.grammar hg)
      | fail he =>
        -- The error of the feed comes first if the grammar has asked for the token behind `k`.
        rw [Reading.run, Reading.run, hs, hs']
        simp only [hg.2]
        split
        · exact .error (.feed he)
        · exact .error (.grammar hg)

theorem run_ended (hR : Tree.Congruent R) (hf : Along E Ended f f') (h : Mirrors R r r') :
    Except.Alike (ReadError.Alike E) (Mirrors R) (r.run mode f) (r'.run mode f') := by
  refine run hR hf ?_ ?_ h
  · rintro _ _ ⟨rfl, rfl⟩
    exact ⟨nofun, nofun⟩
  · rintro _ _ ⟨rfl, rfl⟩ r r' h
    exact .ok h

section Exchanged

variable {op op' : Word β} {x x' : β} (hop : JoinsSummands op) (hop' : JoinsSummands op')
  (hX : Tree.Multiplies R X) (hsum : Tree.Exchanges R X op op')
  (hx : X (.literal x) (.literal x'))

include hop hop' hX hsum hx

/-- **A summand and its counterpart** are read alike with the signs in front of them. -/
theorem run_exchanged (hR : Tree.Congruent R) (hf : Feed.Exchanged E op op' x x' f f')
    (h : Mirrors R r r') :
    Except.Alike (ReadError.Alike E) (Mirrors R) (r.run mode f) (r'.run mode f') := by
  obtain ⟨ha, hb, ha', hb', hf⟩ := hf
  cases h with
  | due Y h hl =>
    rw [run_next_of_error (step_operator_due rfl ha) nofun,
      run_next_of_error (step_operator_due rfl ha') nofun]
    exact .error (.grammar ⟨rfl, rfl⟩)
  | complete Y h hl hv =>
    rw [run_next_of_ok (step_additive rfl ha hop), run_next_of_ok (step_number rfl hb),
      run_next_of_ok (step_additive rfl ha' hop'), run_next_of_ok (step_number rfl hb')]
    exact run_ended hR hf (.complete X h ⟨hX, hsum (hl.sum hv)⟩ hx)

end Exchanged

end Mirrors

end Reading

/-- **Sources that differ in one summand**, and in the sign in front of it, are read alike. -/
theorem Mode.parse_exchanged (hR : Tree.Congruent R) (hX : Tree.Multiplies R X)
    {op op' : Word β} (hop : JoinsSummands op) (hop' : JoinsSummands op')
    (hsum : Tree.Exchanges R X op op') {x x' : β} (hx : X (.literal x) (.literal x'))
    {E : ε → ε' → Prop} {f : Feed (Token β) ε Unit} {f' : Feed (Token β) ε' Unit}
    (hf : Along E (Feed.Exchanged E op op' x x') f f') :
    Except.Alike (ReadError.Alike E) (mode.Mirrors R) (mode.parse f) (mode.parse f') := by
  have hrun : Except.Alike (ReadError.Alike E) (Reading.Mirrors R) (Reading.start.run mode f)
      (Reading.start.run mode f') := by
    refine Reading.Mirrors.run hR hf ?_ ?_ (Reading.mirrors_start hR)
    · rintro _ _ ⟨-, -, -, -, -⟩
      exact ⟨nofun, nofun⟩
    · intro f f' hb r r' h
      exact h.run_exchanged hop hop' hX hsum hx hR hb
  rw [parse_eq, parse_eq]
  exact hrun.bind fun r r' h => h.conclude.mapError fun g g' hg => .grammar hg

end Milp
