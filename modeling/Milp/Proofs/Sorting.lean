import Milp.Matrix.Order

/-!
# Sorting loses nothing

Whatever a pivot, a cut or a heap does to the entries of a row, it does by exchanging two of them,
and the insertion sort at the end puts them into a new row one by one. So the entries that come out
are those that went in, in another order: `Matrix.sortEntries_perm`.
-/

namespace Milp.Matrix

variable {β : Type}

theorem swapIfInBounds_perm (a : Array (Nat × β)) (i j : Nat) :
    (a.swapIfInBounds i j).Perm a := by
  unfold Array.swapIfInBounds
  split
  · split
    · exact Array.swap_perm _ _
    · exact .refl a
  · exact .refl a

theorem medianToFront_perm (a : Array (Nat × β)) (front i j k : Nat) :
    (medianToFront a front i j k).Perm a :=
  swapIfInBounds_perm a front _

theorem split_perm (pivot fuel first last : Nat) (a : Array (Nat × β)) :
    (split pivot fuel first last a).2.Perm a := by
  induction fuel generalizing first last a with
  | zero => exact .refl a
  | succ fuel ih =>
    unfold split
    dsimp only
    split
    · exact (ih _ _ _).trans (swapIfInBounds_perm a _ _)
    · exact .refl a

/-! ### Heaps -/

theorem sink_perm (base size fuel i : Nat) (a : Array (Nat × β)) :
    (sink base size fuel i a).2.Perm a := by
  induction fuel generalizing i a with
  | zero => exact .refl a
  | succ fuel ih =>
    unfold sink
    split
    · exact (ih _ _).trans (swapIfInBounds_perm a _ _)
    · exact .refl a

theorem rise_perm (base top fuel i : Nat) (a : Array (Nat × β)) :
    (rise base top fuel i a).Perm a := by
  induction fuel generalizing i a with
  | zero => exact .refl a
  | succ fuel ih =>
    unfold rise
    dsimp only
    split
    · exact (ih _ _).trans (swapIfInBounds_perm a _ _)
    · exact .refl a

theorem settleEntry_perm (base size i : Nat) (a : Array (Nat × β)) :
    (settleEntry base size i a).Perm a :=
  (rise_perm base i size _ _).trans (sink_perm base size size i a)

/-- Steps that only change the order change nothing but the order, however many they are. -/
theorem foldl_perm {f : Array (Nat × β) → Nat → Array (Nat × β)} (h : ∀ a k, (f a k).Perm a)
    (ks : List Nat) (a : Array (Nat × β)) : (ks.foldl f a).Perm a := by
  induction ks generalizing a with
  | nil => exact .refl a
  | cons k ks ih => exact (ih (f a k)).trans (h a k)

theorem heapSort_perm (first last : Nat) (a : Array (Nat × β)) :
    (heapSort first last a).Perm a := by
  have hheap := foldl_perm (fun a i => settleEntry_perm first (last - first) i a)
    (List.range ((last - first) / 2)).reverse a
  refine (foldl_perm (fun a k => ?_) _ _).trans hheap
  exact (settleEntry_perm first k 0 _).trans (swapIfInBounds_perm a _ _)

/-! ### The whole order -/

theorem splitAll_perm (depth first last : Nat) (a : Array (Nat × β)) :
    (splitAll depth first last a).Perm a := by
  induction depth generalizing first last a with
  | zero =>
    unfold splitAll
    split
    · exact .refl a
    · exact heapSort_perm first last a
  | succ depth ih =>
    unfold splitAll
    split
    · exact .refl a
    · exact (ih _ _ _).trans ((ih _ _ _).trans
        ((split_perm _ _ _ _ _).trans (medianToFront_perm a _ _ _ _)))

theorem insertEntry_perm (e : Nat × β) (es : List (Nat × β)) :
    (insertEntry e es).Perm (e :: es) := by
  induction es with
  | nil => exact .refl _
  | cons f es ih =>
    unfold insertEntry
    split
    · exact .refl _
    · exact (ih.cons f).trans (.swap e f es)

theorem insertionSort_perm (es : List (Nat × β)) : (insertionSort es).Perm es := by
  have key : ∀ es sorted : List (Nat × β),
      (es.foldl (fun sorted e => insertEntry e sorted) sorted).Perm (es ++ sorted) := by
    intro es
    induction es with
    | nil => exact fun sorted => .refl sorted
    | cons e es ih =>
      intro sorted
      exact (ih (insertEntry e sorted)).trans
        (((insertEntry_perm e sorted).append_left es).trans List.perm_middle)
  have h := key es []
  rw [List.append_nil] at h
  exact h

/-- **Sorting only changes the order of the entries.** -/
theorem sortEntries_perm (es : List (Nat × β)) : (sortEntries es).Perm es :=
  (insertionSort_perm _).trans (splitAll_perm _ 0 es.toArray.size es.toArray).toList

end Milp.Matrix
