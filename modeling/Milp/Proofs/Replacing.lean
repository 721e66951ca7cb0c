import Milp.Proofs.Reading
import Mathlib.Data.List.Forall2

/-!
# One primary in place of another

Whether a reading goes on does not depend on the trees that it has built so far. So where a primary
stands among the symbols of a sum another one can stand, and if the trees of the two primaries are
alike, so are the trees of the two sums: `IsSum.replace`.
-/

namespace Milp

open Grammar

variable {β : Type}

/-! ### What a step can do -/

namespace Reading

/-- **What a step in an expression can do.** -/
inductive Moves (r : Reading β) (k : Token β) : Reading β → Prop
  | number {v} : r.operand = none → k.symbol = .number v → Moves r k (r.take (.literal v))
  | expression {v} : r.operand = none → k.symbol = .expression v → Moves r k (r.take (.leaf v))
  | opening {w} : r.operand = none → k.symbol = .opening w →
      Moves r k { r with enclosing := (r.level, k) :: r.enclosing, level := .fresh }
  | closing {w v outer k' enclosing} : r.operand = some v → k.symbol = .closing w →
      r.enclosing = (outer, k') :: enclosing →
      Moves r k (take ⟨r.left, enclosing, outer, none⟩ (r.total v))
  | additive {op v} : r.operand = some v → k.symbol = .operator op → JoinsSummands op →
      Moves r k { r with level := ⟨some ⟨r.total v, op⟩, none⟩, operand := none }
  | multiplicative {op v} : r.operand = some v → k.symbol = .operator op → JoinsFactors op →
      Moves r k { r with level := { r.level with product := some ⟨v, op⟩ }, operand := none }

/-- Nothing stops the reading of an expression but an error. -/
theorem stop_expression_ne_ok {r s : Reading β} {v : Tree β} {k : Token β} :
    r.stop .expression v k ≠ .ok s := by
  intro h
  unfold stop at h
  split at h
  · simp at h
  · simp at h
  · simp at h

theorem moves_of_first {r s : Reading β} {k : Token β} (hr : r.operand = none)
    (h : r.first k = .ok s) : r.Moves k s := by
  unfold first at h
  split at h
  next v hk =>
    obtain rfl := Except.ok.inj h
    exact .number hr hk
  next v hk =>
    obtain rfl := Except.ok.inj h
    exact .expression hr hk
  next w hk =>
    obtain rfl := Except.ok.inj h
    exact .opening hr hk
  next => split at h <;> simp at h
  next => simp at h

theorem moves_of_later {r s : Reading β} {k : Token β} {v : Tree β} (hr : r.operand = some v)
    (h : r.later .expression v k = .ok s) : r.Moves k s := by
  unfold later at h
  split at h
  next op hk =>
    split at h
    next => simp at h
    next sign hsign =>
      split at h
      next hm =>
        obtain rfl := Except.ok.inj h
        refine .multiplicative hr hk ?_
        obtain rfl | rfl := hm
        · exact .inl hsign
        · exact .inr hsign
      next =>
        split at h
        next ha =>
          obtain rfl := Except.ok.inj h
          refine .additive hr hk ?_
          obtain rfl | rfl := ha
          · exact .inl hsign
          · exact .inr hsign
        next => exact absurd h stop_expression_ne_ok
  next w outer k' enclosing hk he =>
    obtain rfl := Except.ok.inj h
    exact .closing hr hk he
  next => exact absurd h stop_expression_ne_ok

theorem step_eq_ok_iff {r s : Reading β} {k : Token β} :
    r.step .expression k = .ok s ↔ r.Moves k s := by
  constructor
  · intro h
    unfold step at h
    split at h
    next hr => exact moves_of_first hr h
    next v hr => exact moves_of_later hr h
  · intro h
    cases h with
    | number hr hk => exact step_number hr hk
    | expression hr hk => exact step_expression hr hk
    | opening hr hk => exact step_opening hr hk
    | closing hr hk he => exact step_closing hr hk he
    | additive hr hk hop => exact step_additive hr hk hop
    | multiplicative hr hk hop => exact step_multiplicative hr hk hop

end Reading

/-! ### Readings that are alike -/

variable {R : Tree β → Tree β → Prop}

/-- Every tree is like itself, and operations on trees that are alike are alike. -/
structure Tree.Congruent (R : Tree β → Tree β → Prop) : Prop where
  refl : ∀ t, R t t
  binary : ∀ {op t t' u u'}, R t t' → R u u' → R (.binary op t u) (.binary op t' u')

/-- The operations are the same, with left operands that are alike. -/
inductive Pending.Alike (R : Tree β → Tree β → Prop) :
    Option (Pending β) → Option (Pending β) → Prop
  | none : Alike R none none
  | some {t t' op} : R t t' → Alike R (some ⟨t, op⟩) (some ⟨t', op⟩)

structure Level.Alike (R : Tree β → Tree β → Prop) (l l' : Level β) : Prop where
  sum : Pending.Alike R l.sum l'.sum
  product : Pending.Alike R l.product l'.product

/-- **The readings differ in nothing but trees**, and these are alike. -/
structure Reading.Alike (R : Tree β → Tree β → Prop) (r r' : Reading β) : Prop where
  left : r.left = r'.left
  enclosing : List.Forall₂ (fun p p' => Level.Alike R p.1 p'.1 ∧ p.2 = p'.2) r.enclosing
    r'.enclosing
  level : Level.Alike R r.level r'.level
  operand : Option.Rel R r.operand r'.operand

theorem Pending.Alike.close (hR : Tree.Congruent R) {p p' : Option (Pending β)}
    (h : Pending.Alike R p p') {t t' : Tree β} (ht : R t t') :
    R (Pending.close p t) (Pending.close p' t') := by
  cases h with
  | none => exact ht
  | some hl => exact hR.binary hl ht

theorem Level.Alike.fresh : Level.Alike R (.fresh : Level β) .fresh := ⟨.none, .none⟩

namespace Reading.Alike

variable {r r' s : Reading β} {k : Token β}

theorem refl (hR : Tree.Congruent R) (r : Reading β) : Alike R r r := by
  have hp : ∀ p : Option (Pending β), Pending.Alike R p p := by
    rintro (_ | ⟨t, op⟩)
    · exact .none
    · exact .some (hR.refl t)
  have hl : ∀ l : Level β, Level.Alike R l l := fun l => ⟨hp _, hp _⟩
  refine ⟨rfl, List.forall₂_same.2 fun p _ => ⟨hl _, rfl⟩, hl _, ?_⟩
  cases r.operand with
  | none => exact .none
  | some t => exact .some (hR.refl t)

theorem take (hR : Tree.Congruent R) (h : Alike R r r') {t t' : Tree β} (ht : R t t') :
    Alike R (r.take t) (r'.take t') :=
  ⟨h.left, h.enclosing, ⟨h.level.sum, .none⟩, .some (h.level.product.close hR ht)⟩

theorem total (hR : Tree.Congruent R) (h : Alike R r r') {t t' : Tree β} (ht : R t t') :
    R (r.total t) (r'.total t') :=
  h.level.sum.close hR ht

theorem operand_none (h : Alike R r r') (hr : r.operand = none) : r'.operand = none := by
  have ho := h.operand
  rw [hr] at ho
  generalize r'.operand = o at ho ⊢
  cases ho
  rfl

theorem operand_some (h : Alike R r r') {t : Tree β} (hr : r.operand = some t) :
    ∃ t', r'.operand = some t' ∧ R t t' := by
  have ho := h.operand
  rw [hr] at ho
  generalize r'.operand = o at ho ⊢
  cases ho with
  | some ht => exact ⟨_, rfl, ht⟩

/-- **A step of one reading is a step of the other.** -/
theorem step (hR : Tree.Congruent R) (h : Alike R r r')
    (hs : r.step .expression k = .ok s) :
    ∃ s', r'.step .expression k = .ok s' ∧ Alike R s s' := by
  cases step_eq_ok_iff.1 hs with
  | number hr hk =>
    exact ⟨_, step_number (h.operand_none hr) hk, h.take hR (hR.refl _)⟩
  | expression hr hk =>
    exact ⟨_, step_expression (h.operand_none hr) hk, h.take hR (hR.refl _)⟩
  | opening hr hk =>
    refine ⟨_, step_opening (h.operand_none hr) hk, ?_⟩
    exact ⟨h.left, .cons ⟨h.level, rfl⟩ h.enclosing, .fresh, h.operand⟩
  | closing hr hk he =>
    obtain ⟨t', hr', ht⟩ := h.operand_some hr
    have henclosing := h.enclosing
    rw [he] at henclosing
    generalize he' : r'.enclosing = enclosing' at henclosing
    cases henclosing with
    | cons hl hrest =>
      obtain ⟨hl, -⟩ := hl
      have houter : Alike R ⟨r.left, _, _, none⟩ ⟨r'.left, _, _, none⟩ :=
        ⟨h.left, hrest, hl, .none⟩
      exact ⟨_, step_closing hr' hk he', houter.take hR (h.total hR ht)⟩
  | additive hr hk hop =>
    obtain ⟨t', hr', ht⟩ := h.operand_some hr
    refine ⟨_, step_additive hr' hk hop, ?_⟩
    exact ⟨h.left, h.enclosing, ⟨.some (h.total hR ht), .none⟩, .none⟩
  | multiplicative hr hk hop =>
    obtain ⟨t', hr', ht⟩ := h.operand_some hr
    refine ⟨_, step_multiplicative hr' hk hop, ?_⟩
    exact ⟨h.left, h.enclosing, ⟨h.level.sum, .some ht⟩, .none⟩

theorem steps (hR : Tree.Congruent R) {ts : List (Token β)}
    (h : Alike R r r') (hs : r.steps .expression ts = .ok s) :
    ∃ s', r'.steps .expression ts = .ok s' ∧ Alike R s s' := by
  induction ts generalizing r r' with
  | nil =>
    obtain rfl := Except.ok.inj hs
    exact ⟨r', rfl, h⟩
  | cons k ts ih =>
    rw [steps_cons, Except.bind_eq_ok_iff] at hs
    obtain ⟨r₁, h₁, hs⟩ := hs
    obtain ⟨r₁', h₁', halike⟩ := h.step hR h₁
    obtain ⟨s', hs', hend⟩ := ih halike hs
    refine ⟨s', ?_, hend⟩
    rw [steps_cons, h₁']
    exact hs'

theorem finish (hR : Tree.Congruent R) (h : Alike R r r') {t : Tree β}
    (hf : r.finish = .ok t) : ∃ t', r'.finish = .ok t' ∧ R t t' := by
  unfold Reading.finish at hf
  split at hf
  · simp at hf
  · simp at hf
  next v hr he =>
    obtain rfl := Except.ok.inj hf
    obtain ⟨v', hr', hv⟩ := h.operand_some hr
    have he' : r'.enclosing = [] := by
      have henclosing := h.enclosing
      rw [he] at henclosing
      exact List.forall₂_nil_left_iff.1 henclosing
    refine ⟨r'.total v', ?_, h.total hR hv⟩
    unfold Reading.finish
    rw [hr', he']

end Reading.Alike

/-! ### Primaries that are replaced -/

namespace Grammar

theorem isSum_iff_steps {ts : List (Token β)} {t : Tree β} : IsSum (ts.map Token.symbol) t ↔
    ∃ r, Reading.start.steps .expression ts = .ok r ∧ r.finish = .ok t := by
  have h := @ofFeed_eq_ok_iff_isSum β Unit (.ofList ts) t
  rw [Tree.ofFeed_eq_ok_iff, Feed.outcome_ofList, Feed.items_ofList] at h
  exact ⟨fun hs => (h.2 ⟨rfl, hs⟩).2, fun hr => (h.1 ⟨rfl, hr⟩).2⟩

/-- A primary is taken only where an operand is due. -/
theorem IsPrimary.operand_eq_none {ss : List (Symbol β)} {p : Tree β} (hp : IsPrimary ss p)
    {ts : List (Token β)} (hts : ts.map Token.symbol = ss) {r s : Reading β}
    (hs : r.steps .expression ts = .ok s) : r.operand = none := by
  have hfirst : ∃ k rest, ts = k :: rest ∧ ((∃ v, k.symbol = .number v) ∨
      (∃ v, k.symbol = .expression v) ∨ ∃ w, k.symbol = .opening w) := by
    cases hp with
    | number v =>
      obtain ⟨k, rfl, hk⟩ := List.map_eq_singleton_iff.1 hts
      exact ⟨k, [], rfl, .inl ⟨v, hk⟩⟩
    | expression v =>
      obtain ⟨k, rfl, hk⟩ := List.map_eq_singleton_iff.1 hts
      exact ⟨k, [], rfl, .inr (.inl ⟨v, hk⟩)⟩
    | group w w' h =>
      obtain ⟨k, rest, rfl, hk, -⟩ := List.map_eq_cons_iff.1 hts
      exact ⟨k, rest, rfl, .inr (.inr ⟨w, hk⟩)⟩
  obtain ⟨k, rest, rfl, hk⟩ := hfirst
  rw [Reading.steps_cons, Except.bind_eq_ok_iff] at hs
  obtain ⟨r₁, hmove, -⟩ := hs
  cases Reading.step_eq_ok_iff.1 hmove with
  | number hr | expression hr | opening hr => exact hr
  | closing _ hk' | additive _ hk' | multiplicative _ hk' => simp [hk'] at hk

/-- **A primary in place of another one**, among the symbols of a sum. -/
theorem IsSum.replace (hR : Tree.Congruent R)
    {us xs xs' vs : List (Symbol β)} {p p' t : Tree β} (h : IsSum (us ++ (xs ++ vs)) t)
    (hp : IsPrimary xs p) (hp' : IsPrimary xs' p') (hpp' : R p p') :
    ∃ t', IsSum (us ++ (xs' ++ vs)) t' ∧ R t t' := by
  obtain ⟨tu, rfl⟩ := exists_map_symbol us
  obtain ⟨tx, rfl⟩ := exists_map_symbol xs
  obtain ⟨tx', rfl⟩ := exists_map_symbol xs'
  obtain ⟨tv, rfl⟩ := exists_map_symbol vs
  rw [← List.map_append, ← List.map_append] at h ⊢
  obtain ⟨s, hs, hf⟩ := isSum_iff_steps.1 h
  rw [Reading.steps_append, Except.bind_eq_ok_iff] at hs
  obtain ⟨r, hu, hs⟩ := hs
  rw [Reading.steps_append, Except.bind_eq_ok_iff] at hs
  obtain ⟨r₁, hx, hv⟩ := hs
  have hr := hp.operand_eq_none rfl hx
  -- both primaries are taken as the operand that is due
  obtain rfl := Except.ok.inj ((hp.steps rfl hr).symm.trans hx)
  obtain ⟨s', hv', hend⟩ := ((Reading.Alike.refl hR r).take hR hpp').steps hR hv
  obtain ⟨t', hf', ht⟩ := hend.finish hR hf
  refine ⟨t', isSum_iff_steps.2 ⟨s', ?_, hf'⟩, ht⟩
  rw [Reading.steps_append_of_ok _ hu, Reading.steps_append_of_ok _ (hp'.steps rfl hr), hv']

end Grammar

end Milp
