import Milp.Matrix
import Milp.Proofs.Sorting
import Milp.Proofs.Success
import Mathlib.Algebra.BigOperators.Group.List.Basic
import Mathlib.Tactic.Ring

/-!
# Rows of coefficients

A row of a matrix is made of entries, each with a column and a factor. The entries may be sorted,
those of one column are added up, and the rest of the row is filled with zeros. What the row comes
to at a point is the sum of its entries there: `Program.map_dot_matrixOf`.
-/

namespace Milp.Program

/-! ### Sums at a point -/

/-- What a row of coefficients comes to at a point. -/
def dot (row x : List Rat) : Rat := (List.zipWith (· * ·) row x).sum

/-- What the entries of a row come to at a point. -/
def weight (x : List Rat) (entries : List (Nat × Rat)) : Rat :=
  (entries.map fun e => e.2 * x.getD e.1 0).sum

@[simp] theorem dot_cons (c y : Rat) (row x : List Rat) :
    dot (c :: row) (y :: x) = c * y + dot row x := by
  simp [dot]

@[simp] theorem weight_cons (x : List Rat) (e : Nat × Rat) (es : List (Nat × Rat)) :
    weight x (e :: es) = e.2 * x.getD e.1 0 + weight x es := by
  simp [weight]

theorem dot_replicate_zero (n : Nat) (x : List Rat) : dot (List.replicate n 0) x = 0 := by
  induction n generalizing x with
  | zero => rfl
  | succ n ih =>
    cases x with
    | nil => rfl
    | cons y x => rw [List.replicate_succ, dot_cons, ih, zero_mul, zero_add]

theorem dot_map_neg (row x : List Rat) : dot (row.map fun c => -c) x = -dot row x := by
  induction row generalizing x with
  | nil => rfl
  | cons c row ih =>
    cases x with
    | nil => rfl
    | cons y x =>
      rw [List.map_cons, dot_cons, dot_cons, ih]
      ring

/-- More in a column is more at a point. -/
theorem dot_modify {row x : List Rat} {j : Nat} (hj : j < row.length) (hx : x.length = row.length)
    (f : Rat) : dot (row.modify j (· + f)) x = dot row x + f * x.getD j 0 := by
  induction row generalizing x j with
  | nil => exact absurd hj (Nat.not_lt_zero _)
  | cons c row ih =>
    cases x with
    | nil => simp at hx
    | cons y x =>
      cases j with
      | zero =>
        rw [List.modify_zero_cons, dot_cons, dot_cons, List.getD_cons_zero]
        ring
      | succ j =>
        rw [List.modify_succ_cons, dot_cons, dot_cons, List.getD_cons_succ,
          ih (Nat.lt_of_succ_lt_succ hj) (Nat.succ.inj hx)]
        ring

theorem weight_perm {es fs : List (Nat × Rat)} (h : es.Perm fs) (x : List Rat) :
    weight x es = weight x fs :=
  (h.map _).sum_eq

/-! ### From entries to a row -/

theorem length_dense {α : Type} (plus : α → α → α) (zero : α) (n : Nat)
    (entries : List (Nat × α)) : (dense plus zero n entries).length = n := by
  have key : ∀ (entries : List (Nat × α)) (row : List α), (entries.foldl
      (fun row e => row.modify e.1 (plus · e.2)) row).length = row.length := by
    intro entries
    induction entries with
    | nil => exact fun row => rfl
    | cons e es ih => exact fun row => (ih _).trans (List.length_modify ..)
  exact (key entries _).trans List.length_replicate

theorem dot_dense {n : Nat} {x : List Rat} (hx : x.length = n) {entries : List (Nat × Rat)}
    (h : ∀ e ∈ entries, e.1 < n) : dot (dense (· + ·) 0 n entries) x = weight x entries := by
  -- the row that is filled so far and the entries that are left make up the sum
  have key : ∀ (entries : List (Nat × Rat)) (row : List Rat), row.length = n →
      (∀ e ∈ entries, e.1 < n) →
      dot (entries.foldl (fun row e => row.modify e.1 (· + e.2)) row) x =
        dot row x + weight x entries := by
    intro entries
    induction entries with
    | nil => exact fun row _ _ => (add_zero _).symm
    | cons e es ih =>
      intro row hrow h
      obtain ⟨he, hes⟩ := List.forall_mem_cons.1 h
      rw [List.foldl_cons, ih _ ((List.length_modify ..).trans hrow) hes,
        dot_modify (hrow.symm ▸ he) (hx.trans hrow.symm), weight_cons]
      ring
  exact (key entries _ List.length_replicate h).trans
    (by rw [dot_replicate_zero, zero_add])

theorem exists_of_mem_mergeFrom {α : Type} {plus : α → α → α} {e f : Nat × α}
    {es : List (Nat × α)} (h : f ∈ mergeFrom plus e es) : ∃ g ∈ e :: es, g.1 = f.1 := by
  induction es generalizing e with
  | nil => exact ⟨f, h, rfl⟩
  | cons g es ih =>
    unfold mergeFrom at h
    split at h
    · obtain ⟨k, hk, hkf⟩ := ih h
      obtain rfl | hk := List.mem_cons.1 hk
      · exact ⟨e, List.mem_cons_self, hkf⟩
      · exact ⟨k, List.mem_cons_of_mem _ (List.mem_cons_of_mem _ hk), hkf⟩
    · obtain rfl | h := List.mem_cons.1 h
      · exact ⟨f, List.mem_cons_self, rfl⟩
      · obtain ⟨k, hk, hkf⟩ := ih h
        exact ⟨k, List.mem_cons_of_mem _ hk, hkf⟩

/-- Entries of one column count with the sum of their factors. -/
theorem weight_mergeFrom (x : List Rat) (e : Nat × Rat) (es : List (Nat × Rat)) :
    weight x (mergeFrom (· + ·) e es) = weight x (e :: es) := by
  induction es generalizing e with
  | nil => rfl
  | cons f es ih =>
    unfold mergeFrom
    split
    next h =>
      rw [ih, weight_cons, weight_cons, weight_cons, ← h]
      ring
    next => rw [weight_cons, ih, weight_cons x e]

/-! ### The matrix -/

/-- The rows get back the entries that were gathered from them. -/
theorem deal_flatMap {δ α : Type} (g : α → δ) (rows : List (List (Nat × α))) :
    deal (rows.map (·.map fun e => (e.1, g e.2))) (rows.flatMap (·.map Prod.snd)) = rows := by
  induction rows with
  | nil => rfl
  | cons row rows ih =>
    have htake : (row.map Prod.snd ++ rows.flatMap (·.map Prod.snd)).take row.length =
        row.map Prod.snd := List.take_left' (List.length_map ..)
    have hdrop : (row.map Prod.snd ++ rows.flatMap (·.map Prod.snd)).drop row.length =
        rows.flatMap (·.map Prod.snd) := List.drop_left' (List.length_map ..)
    rw [List.map_cons, List.flatMap_cons, deal, List.length_map, htake, hdrop, ih]
    refine congrArg (· :: rows) ?_
    rw [List.zip_map', List.map_map]
    exact List.map_id _

/-- The row that entries make when neighbours of one column are added up. -/
def rowOf (n : Nat) (entries : List (Nat × Rat)) : List Rat :=
  dense (· + ·) 0 n (match entries with
    | [] => []
    | e :: es => mergeFrom (· + ·) e es)

theorem dot_rowOf {n : Nat} {x : List Rat} (hx : x.length = n) {entries : List (Nat × Rat)}
    (h : ∀ e ∈ entries, e.1 < n) : dot (rowOf n entries) x = weight x entries := by
  cases entries with
  | nil => exact dot_dense hx h
  | cons e es =>
    have hmerged : ∀ f ∈ mergeFrom (· + ·) e es, f.1 < n := by
      intro f hf
      obtain ⟨g, hg, hgf⟩ := exists_of_mem_mergeFrom hf
      exact hgf ▸ h g hg
    exact (dot_dense hx hmerged).trans (weight_mergeFrom x e es)

/-- The rows that entries make. If those of any row are out of order, all are sorted. -/
def matrixOf (n : Nat) (rows : List (List (Nat × Rat))) : List (List Rat) :=
  (if rows.all Matrix.isSorted then rows else rows.map Matrix.sortEntries).map (rowOf n)

theorem length_matrixOf (n : Nat) (rows : List (List (Nat × Rat))) :
    (matrixOf n rows).length = rows.length := by
  unfold matrixOf
  split <;> simp

theorem length_of_mem_matrixOf {n : Nat} {rows : List (List (Nat × Rat))} {row : List Rat}
    (h : row ∈ matrixOf n rows) : row.length = n := by
  obtain ⟨es, -, rfl⟩ := List.mem_map.1 h
  exact length_dense ..

/-- **The rows of a matrix come to what their entries come to**, sorted or not. -/
theorem map_dot_matrixOf {n : Nat} {x : List Rat} (hx : x.length = n)
    {rows : List (List (Nat × Rat))} (h : ∀ row ∈ rows, ∀ e ∈ row, e.1 < n) :
    (matrixOf n rows).map (dot · x) = rows.map (weight x) := by
  unfold matrixOf
  rw [List.map_map]
  split
  · exact List.map_congr_left fun row hrow => dot_rowOf hx (h row hrow)
  · rw [List.map_map]
    refine List.map_congr_left fun row hrow => ?_
    have hperm := Matrix.sortEntries_perm row
    have hlt : ∀ e ∈ Matrix.sortEntries row, e.1 < n :=
      fun e he => h row hrow e (hperm.mem_iff.1 he)
    exact (dot_rowOf hx hlt).trans (weight_perm hperm x)

section Measures

variable {ofText : String → Option Rat}

theorem mapM_measure (xs : List Rat) :
    (xs.map Datum.number).mapM (Datum.inquiry ofText).measure = .ok xs := by
  have h := Except.mapM_eq_ok (f := fun x => (Datum.inquiry ofText).measure (.number x)) (g := id)
    (fun _ => rfl) xs
  rw [List.map_id] at h
  rw [List.mapM_map]
  exact h

theorem gather_ofMeasures (xs : List Rat) :
    (Arrays.ofMeasures (Datum.inquiry ofText)).gather (xs.map .number) = .ok (0, xs) := by
  simp only [Arrays.ofMeasures, mapM_measure]
  rfl

theorem matrix_ofMeasures (n : Nat) (rows : List (List (Nat × Rat))) :
    matrix (Arrays.ofMeasures (Datum.inquiry ofText)) n
        (rows.map (·.map fun e => (e.1, Datum.number e.2))) = .ok (matrixOf n rows) := by
  have hfactors : (rows.map (·.map fun e => (e.1, Datum.number e.2))).flatMap (·.map Prod.snd) =
      (rows.flatMap (·.map Prod.snd)).map Datum.number := by
    rw [List.flatMap_map, List.map_flatMap]
    simp only [List.map_map, Function.comp_def]
  unfold matrix
  rw [hfactors, gather_ofMeasures, Except.mapError_ok]
  dsimp only [bind, Except.bind, pure, Except.pure]
  rw [deal_flatMap]
  refine congrArg Except.ok (List.map_congr_left fun row _ => ?_)
  cases row <;> rfl

end Measures

end Milp.Program
