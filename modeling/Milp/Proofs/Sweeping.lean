import Mathlib.Data.Finset.Card
import Mathlib.Data.List.Basic
import Milp.References

/-!
# What goes out of use

A walk along references finds everything that can be reached, `lookup_of_reaches`, and among
finitely many things it comes to an end, `exists_reach`. So a sweep never gives up a thing that can
be reached from the roots: `not_reaches_of_mem_givenUp`.
-/

namespace Milp.References

variable {τ : Type} {number : τ → Nat} {children : τ → List τ} {stack start : List τ}
  {seen before : Things τ} {t u : τ}

/-- **The thing can be reached** from the start by way of references. -/
inductive Reaches (children : τ → List τ) (start : List τ) : τ → Prop
  | start {t : τ} : t ∈ start → Reaches children start t
  | child {t u : τ} : Reaches children start t → u ∈ children t → Reaches children start u

theorem Reaches.mono {start' : List τ} (h : Reaches children start t)
    (hstart : ∀ u ∈ start, Reaches children start' u) : Reaches children start' t := by
  induction h with
  | start hmem => exact hstart _ hmem
  | child _ hu ih => exact .child ih hu

/-- Things are told apart by their numbers as far as it matters: those that can be reached refer to
the same things if they have one number. -/
def Numbered (number : τ → Nat) (children : τ → List τ) (start : List τ) : Prop :=
  ∀ t u, Reaches children start t → Reaches children start u → number t = number u →
    children t = children u

theorem isSome_lookup_iff {n : Nat} : (seen.lookup n).isSome ↔ ∃ t, (n, t) ∈ seen := by
  simp [List.lookup_isSome_iff]

theorem mem_of_lookup_eq_some {n : Nat} (h : seen.lookup n = some t) : (n, t) ∈ seen := by
  obtain ⟨xs, ys, rfl, -⟩ := List.lookup_eq_some_iff.1 h
  exact List.mem_append_right xs List.mem_cons_self

/-! ### Walks -/

/-- **Where a walk stands**: what has been seen is filed under its number, and what it refers to has
been seen or is still on the stack. -/
structure Followed (number : τ → Nat) (children : τ → List τ) (stack : List τ) (seen : Things τ) :
    Prop where
  filed : ∀ p ∈ seen, p.1 = number p.2
  closed : ∀ p ∈ seen, ∀ u ∈ children p.2, u ∈ stack ∨ (seen.lookup (number u)).isSome

theorem lookup_cons_of_isSome {n : Nat} (p : Nat × τ) (h : (seen.lookup n).isSome) :
    ((p :: seen).lookup n).isSome := by
  obtain ⟨t, ht⟩ := isSome_lookup_iff.1 h
  exact isSome_lookup_iff.2 ⟨t, List.mem_cons_of_mem p ht⟩

theorem Followed.skip (h : Followed number children (t :: stack) seen)
    (ht : (seen.lookup (number t)).isSome) : Followed number children stack seen := by
  refine ⟨h.filed, fun p hp u hu => ?_⟩
  obtain hmem | hseen := h.closed p hp u hu
  · obtain rfl | hmem := List.mem_cons.1 hmem
    · exact .inr ht
    · exact .inl hmem
  · exact .inr hseen

theorem Followed.visit (h : Followed number children (t :: stack) seen) :
    Followed number children (children t ++ stack) (seen.file number t) := by
  refine ⟨List.forall_mem_cons.2 ⟨rfl, h.filed⟩, List.forall_mem_cons.2 ⟨?_, ?_⟩⟩
  · exact fun u hu => .inl (List.mem_append_left stack hu)
  · intro p hp u hu
    obtain hmem | hseen := h.closed p hp u hu
    · obtain rfl | hmem := List.mem_cons.1 hmem
      · exact .inr (isSome_lookup_iff.2 ⟨u, List.mem_cons_self⟩)
      · exact .inl (List.mem_append_right _ hmem)
    · exact .inr (lookup_cons_of_isSome _ hseen)

/-- **What a walk finds**: all that was seen, all that was on the stack, whatever these refer to, and
nothing else. -/
structure Found (number : τ → Nat) (children : τ → List τ) (stack : List τ) (seen r : Things τ) :
    Prop where
  followed : Followed number children [] r
  listed : ∀ t ∈ stack, (r.lookup (number t)).isSome
  kept : ∀ p ∈ seen, p ∈ r
  only : ∀ p ∈ r, p ∈ seen ∨ Reaches children stack p.2

theorem Found.skip {r : Things τ} (h : Found number children stack seen r)
    (ht : (seen.lookup (number t)).isSome) : Found number children (t :: stack) seen r where
  followed := h.followed
  listed := by
    obtain ⟨u, hu⟩ := isSome_lookup_iff.1 ht
    exact List.forall_mem_cons.2 ⟨isSome_lookup_iff.2 ⟨u, h.kept _ hu⟩, h.listed⟩
  kept := h.kept
  only p hp := (h.only p hp).imp_right fun hreaches =>
    hreaches.mono fun _ hu => .start (List.mem_cons_of_mem t hu)

theorem Found.visit {r : Things τ}
    (h : Found number children (children t ++ stack) (seen.file number t) r) :
    Found number children (t :: stack) seen r where
  followed := h.followed
  listed := List.forall_mem_cons.2 ⟨isSome_lookup_iff.2 ⟨t, h.kept _ List.mem_cons_self⟩,
    fun u hu => h.listed u (List.mem_append_right _ hu)⟩
  kept p hp := h.kept p (List.mem_cons_of_mem _ hp)
  only p hp := by
    have ht : Reaches children (t :: stack) t := .start List.mem_cons_self
    obtain hmem | hreaches := h.only p hp
    · obtain rfl | hmem := List.mem_cons.1 hmem
      · exact .inr ht
      · exact .inl hmem
    · refine .inr (hreaches.mono fun u hu => ?_)
      obtain hu | hu := List.mem_append.1 hu
      · exact .child ht hu
      · exact .start (List.mem_cons_of_mem t hu)

theorem found_of_reach {r : Things τ} (h : Things.reach number children stack seen = some r)
    (hseen : Followed number children stack seen) : Found number children stack seen r := by
  revert hseen
  refine Things.reach.partial_correctness number children (fun stack seen r =>
    Followed number children stack seen → Found number children stack seen r) ?_ stack seen r h
  intro walk ih stack seen r h hseen
  split at h
  next =>
    obtain rfl := Option.some.inj h
    exact ⟨hseen, fun t ht => absurd ht List.not_mem_nil, fun p hp => hp, fun p hp => .inl hp⟩
  next t stack =>
    split at h
    next ht => exact (ih _ _ _ h (hseen.skip ht)).skip ht
    next => exact (ih _ _ _ h hseen.visit).visit

theorem followed_nil : Followed number children stack [] :=
  ⟨fun _ hp => absurd hp List.not_mem_nil, fun _ hp => absurd hp List.not_mem_nil⟩

/-- **Whatever can be reached is found.** -/
theorem lookup_of_reaches (hnumber : Numbered number children start) {r : Things τ}
    (h : Things.reach number children start [] = some r) (ht : Reaches children start t) :
    (r.lookup (number t)).isSome := by
  have hfound := found_of_reach h followed_nil
  induction ht with
  | start hmem => exact hfound.listed _ hmem
  | @child t u ht hu ih =>
    -- what was found under the number of `t` refers to the same things
    obtain ⟨t', ht'⟩ := isSome_lookup_iff.1 ih
    have hreaches := (hfound.only _ ht').resolve_left List.not_mem_nil
    rw [hnumber t t' ht hreaches (hfound.followed.filed _ ht')] at hu
    exact (hfound.followed.closed _ ht' u hu).resolve_left List.not_mem_nil

/-! ### Walks come to an end -/

/-- How many of the things have not been seen. -/
def unseen (number : τ → Nat) (all : List τ) (seen : Things τ) : Nat :=
  ((all.map number).toFinset.filter fun n => seen.lookup n = none).card

theorem unseen_cons_lt {all : List τ} (ht : t ∈ all) (h : seen.lookup (number t) = none) :
    unseen number all (seen.file number t) < unseen number all seen := by
  refine Finset.card_lt_card (Finset.ssubset_iff_of_subset ?_ |>.2 ⟨number t, ?_, ?_⟩)
  · intro n hn
    rw [Finset.mem_filter] at hn ⊢
    refine ⟨hn.1, ?_⟩
    by_contra hsome
    have hcons : ((seen.file number t).lookup n).isSome :=
      lookup_cons_of_isSome _ (Option.isSome_iff_ne_none.2 hsome)
    rw [hn.2] at hcons
    exact absurd hcons Bool.false_ne_true
  · rw [Finset.mem_filter, List.mem_toFinset]
    exact ⟨List.mem_map_of_mem ht, h⟩
  · intro hmem
    have hself : (seen.file number t).lookup (number t) = some t := List.lookup_cons_self
    rw [Finset.mem_filter, hself] at hmem
    exact nomatch hmem.2

/-- **A walk among finitely many things comes to an end.** -/
theorem exists_reach {all : List τ} (hall : ∀ t ∈ all, ∀ u ∈ children t, u ∈ all)
    (hstack : ∀ t ∈ stack, t ∈ all) : ∃ r, Things.reach number children stack seen = some r := by
  generalize hn : unseen number all seen = n
  induction n using Nat.strong_induction_on generalizing stack seen with
  | _ n ih =>
    -- as long as everything on the stack has been seen, the stack gets shorter
    induction stack with
    | nil => exact ⟨seen, by rw [Things.reach]⟩
    | cons t stack ihstack =>
      rw [List.forall_mem_cons] at hstack
      rw [Things.reach]
      split
      · exact ihstack hstack.2
      next h =>
        rw [Option.not_isSome_iff_eq_none] at h
        refine ih _ (hn ▸ unseen_cons_lt hstack.1 h) ?_ rfl
        exact List.forall_mem_append.2 ⟨hall t hstack.1, hstack.2⟩

/-! ### Sweeps -/

variable {roots result : List τ} {w : Sweep τ}

/-- Among finitely many things there is a sweep. -/
theorem exists_sweep {all : List τ} (hall : ∀ t ∈ all, ∀ u ∈ children t, u ∈ all)
    (hroots : ∀ t ∈ roots, t ∈ all) (hresult : ∀ t ∈ result, t ∈ all) :
    ∃ w, sweep number children roots result before = some w := by
  obtain ⟨inUse, hinUse⟩ : ∃ r, Things.reach number children roots [] = some r := exists_reach hall hroots
  obtain ⟨before', hbefore⟩ : ∃ r, Things.reach number children result before = some r :=
    exists_reach hall hresult
  rw [sweep, hinUse, hbefore]
  exact ⟨_, rfl⟩

theorem sweep_eq_some (h : sweep number children roots result before = some w) :
    Things.reach number children roots [] = some w.inUse ∧
      (∀ t ∈ w.released, w.inUse.lookup (number t) = none) ∧
      ∀ p ∈ w.stranded, w.inUse.lookup (number p.2) = none := by
  simp only [sweep, Option.bind_eq_bind, Option.bind_eq_some_iff] at h
  obtain ⟨inUse, hinUse, before', -, h⟩ := h
  obtain rfl := Option.some.inj h
  refine ⟨hinUse, fun t ht => ?_, fun p hp => ?_⟩
  · obtain ⟨u, hu⟩ := isSome_lookup_iff.1 (lookup_of_mem_release number children _ _ _ _ ht)
    exact Option.isNone_iff_eq_none.1 (List.mem_filter.1 hu).2
  · exact Option.isNone_iff_eq_none.1 (Bool.and_eq_true_iff.1 (List.mem_filter.1 hp).2).1

/-- A thing that is given up has been released, or is stranded. -/
theorem mem_of_mem_givenUp {place? : τ → Option Nat} {count : Nat} {looksForCircles : Bool}
    (h : t ∈ w.givenUp place? count looksForCircles) :
    t ∈ w.released ∨ ∃ p ∈ w.stranded, p.2 = t := by
  rw [Sweep.givenUp] at h
  obtain h | h := List.mem_append.1 h
  · exact .inl (List.mem_filter.1 h).1
  · split at h
    · obtain ⟨n, -, hn⟩ := List.mem_filterMap.1 h
      have hplaced := mem_of_lookup_eq_some hn
      obtain ⟨p, hp, hpn⟩ := List.mem_filterMap.1 hplaced
      obtain ⟨_, -, heq⟩ := Option.map_eq_some_iff.1 hpn
      exact .inr ⟨p, hp, (Prod.mk.inj heq).2⟩
    · exact absurd h List.not_mem_nil

/-- **A sweep gives up nothing that can be reached from the roots.** -/
theorem not_reaches_of_mem_givenUp (hnumber : Numbered number children roots)
    (h : sweep number children roots result before = some w) {place? : τ → Option Nat} {count : Nat}
    {looksForCircles : Bool} (ht : t ∈ w.givenUp place? count looksForCircles)
    (hu : number u = number t) : ¬ Reaches children roots u := by
  intro hreaches
  obtain ⟨hinUse, hreleased, hstranded⟩ := sweep_eq_some h
  have hsome := lookup_of_reaches hnumber hinUse hreaches
  have hnone : w.inUse.lookup (number t) = none := by
    obtain ht | ⟨p, hp, rfl⟩ := mem_of_mem_givenUp ht
    · exact hreleased t ht
    · exact hstranded p hp
  rw [hu, hnone] at hsome
  exact absurd hsome Bool.false_ne_true

end Milp.References
