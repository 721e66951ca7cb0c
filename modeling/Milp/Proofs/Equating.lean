import Milp.Proofs.Valuation

/-!
# When expressions are equal

Two expressions are equal if their constants are and the factors of every key, where a key that is
not there counts as one with the factor zero. Constant and factors are the entries of an expression.
Over the rationals `base + k * other` is calculated entry by entry: `Affine.entry_addScaled`.

Equality compares representations, and yet it decides which expressions have the same value
everywhere: the difference of two equal expressions has no entry but zeros, and from the values of
an expression all of its entries can be told; see `Affine.same_iff_evaluate`.
-/

theorem Except.allM_eq_ok {ε α : Type} (p : α → Bool) (xs : List α) :
    (xs.allM fun x => (.ok (p x) : Except ε Bool)) = .ok (xs.all p) := by
  induction xs with
  | nil => rfl
  | cons x xs ih =>
    rw [List.allM, ok_bind, List.all_cons]
    cases p x with
    | false => rfl
    | true => exact ih

namespace Milp

variable {ν : Type} [BEq ν]

/-! ### Factors -/

namespace Linear

/-- Behind the first term under a key there is no other. -/
theorem find?_eq_none_of_distinct [LawfulBEq ν] {t : Term ν Rat} {ts : List (Term ν Rat)}
    (h : ∀ key ∈ ts.map Term.key, (t.key == key) = false) :
    ts.find? (·.key == t.key) = none := by
  refine List.find?_eq_none.2 fun u hu hut => ?_
  have hne := h u.key (List.mem_map_of_mem hu)
  rw [BEq.symm hut] at hne
  cases hne

/-- A key that is not there has the factor zero. -/
theorem factor_of_notMem [LawfulBEq ν] {l : Linear ν Rat} {key : ν} (h : key ∉ l.keys) :
    l.factor key = 0 := by
  have hnone : l.find? key = none := by
    refine List.find?_eq_none.2 fun t ht hkey => h ?_
    rw [← eq_of_beq hkey]
    exact List.mem_map_of_mem ht
  simp only [factor, hnone, Scalar.zero]

variable [LawfulBEq ν] (k : Rat) (l : Linear ν Rat) (t : Term ν Rat) (key : ν)

theorem factor_of_mem {l : Linear ν Rat} {t : Term ν Rat} (h : t ∈ l.terms) :
    l.factor t.key = t.factor := by
  simp only [factor, mem_terms_iff.1 h]

theorem factor_insert :
    (l.insert t).factor key = if t.key == key then t.factor else l.factor key := by
  unfold factor
  rw [find?_insert]
  by_cases hkey : t.key == key
  · rw [if_pos hkey, if_pos hkey]
  · rw [if_neg hkey, if_neg hkey]

omit [LawfulBEq ν] in
/-- Over the rationals a term can always be added. -/
theorem addTerm_eq : addTerm k l t =
    .ok (l.insert ⟨t.key, l.factor t.key + k * t.factor, (l.var? t.key).getD t.var⟩) := by
  unfold addTerm factor var?
  cases l.find? t.key <;> rfl

omit [LawfulBEq ν] in
theorem exists_foldlM (ts : List (Term ν Rat)) : ∃ l', ts.foldlM (addTerm k) l = .ok l' := by
  induction ts generalizing l with
  | nil => exact ⟨l, rfl⟩
  | cons t ts ih =>
    rw [List.foldlM_cons, addTerm_eq]
    exact ih _

/-- **The factor of a key among merged terms**: no two of them are filed under it. -/
theorem factor_foldlM {ts : List (Term ν Rat)} {l l' : Linear ν Rat}
    (hts : (ts.map Term.key).Pairwise fun a b => (a == b) = false)
    (h : ts.foldlM (addTerm k) l = .ok l') : l'.factor key =
      l.factor key + k * ((ts.find? (·.key == key)).map Term.factor).getD 0 := by
  induction ts generalizing l with
  | nil =>
    obtain rfl := Except.ok.inj h
    simp
  | cons t ts ih =>
    rw [List.map_cons, List.pairwise_cons] at hts
    rw [List.foldlM_cons, addTerm_eq] at h
    rw [ih hts.2 h, factor_insert, List.find?_cons]
    by_cases hkey : t.key == key
    · obtain rfl : t.key = key := eq_of_beq hkey
      simp [find?_eq_none_of_distinct hts.1]
    · simp [hkey]

end Linear

/-! ### Entries -/

namespace Affine

variable {e f base other : Affine ν Rat} {k : Rat} {v : ν → Rat}

/-- The factor of a key, or the constant. -/
def entry (e : Affine ν Rat) : Option ν → Rat
  | none => e.constant
  | some key => e.linear.factor key

theorem exists_addScaled (base : Affine ν Rat) (k : Rat) (other : Affine ν Rat) :
    ∃ e, base.addScaled k other = .ok e := by
  obtain ⟨l, hl⟩ := base.linear.exists_foldlM k other.linear.terms
  refine ⟨⟨l, base.constant + k * other.constant⟩, ?_⟩
  rw [addScaled, hl]
  rfl

variable [LawfulBEq ν]

/-- **`base + k * other` entry by entry.** -/
theorem entry_addScaled (h : base.addScaled k other = .ok e) (i : Option ν) :
    e.entry i = base.entry i + k * other.entry i := by
  simp only [addScaled, Except.bind_eq_ok_iff, Except.pure_eq_ok_iff] at h
  obtain ⟨l, hl, p, hp, c, hc, rfl⟩ := h
  cases i with
  | none =>
    obtain rfl : k * other.constant = p := Except.ok.inj hp
    exact (Except.ok.inj hc).symm
  | some key =>
    have hother : other.linear.factor key =
        ((other.linear.terms.find? (·.key == key)).map Term.factor).getD 0 := by
      unfold Linear.factor Linear.find?
      cases other.linear.terms.find? (·.key == key) <;> rfl
    rw [entry, entry, entry, hother]
    exact Linear.factor_foldlM k key other.linear.distinct hl

/-- **Equality can always be told**, and it is equality of all entries. -/
theorem exists_same (e f : Affine ν Rat) :
    ∃ b, e.same f = .ok b ∧ (b = true ↔ ∀ i, e.entry i = f.entry i) := by
  have hlinear : e.linear.sameBy (Scalar.same : Rat → Rat → Except ScalarError Bool) f.linear =
      .ok ((e.linear.keys ++ f.linear.keys).all fun key =>
        decide (e.linear.factor key = f.linear.factor key)) :=
    Except.allM_eq_ok _ _
  have hconstant : (Scalar.same e.constant f.constant : Except ScalarError Bool) =
      .ok (decide (e.constant = f.constant)) := rfl
  rw [same, sameBy, hconstant, Except.ok_bind, hlinear]
  by_cases hc : e.constant = f.constant
  · rw [if_pos (decide_eq_true hc)]
    refine ⟨_, rfl, ?_⟩
    rw [List.all_eq_true]
    constructor
    · intro h i
      cases i with
      | none => exact hc
      | some key =>
        by_cases hkey : key ∈ e.linear.keys ++ f.linear.keys
        · exact of_decide_eq_true (h key hkey)
        · rw [List.mem_append, not_or] at hkey
          show e.linear.factor key = f.linear.factor key
          rw [Linear.factor_of_notMem hkey.1, Linear.factor_of_notMem hkey.2]
    · intro h key _
      exact decide_eq_true (h (some key))
  · rw [if_neg (by simpa using hc)]
    exact ⟨false, rfl, by simp, fun h => absurd (h none) hc⟩

theorem same_iff_entry : e.same f = .ok true ↔ ∀ i, e.entry i = f.entry i := by
  obtain ⟨b, hb, hiff⟩ := e.exists_same f
  rw [hb, ← hiff, Except.ok.injEq]

/-! ### Entries and values -/

/-- Without any entry but zeros the value is zero. -/
theorem keyed_of_entry_eq_zero (h : ∀ i, e.entry i = 0) (v : ν → Rat) : e.keyed v = 0 := by
  have hterms : (e.linear.terms.map fun t => t.factor * v t.key) =
      e.linear.terms.map fun _ => 0 := by
    refine List.map_congr_left fun t ht => ?_
    have hfactor : e.linear.factor t.key = 0 := h (some t.key)
    rw [← Linear.factor_of_mem ht, hfactor, zero_mul]
  have hconstant : e.constant = 0 := h none
  rw [keyed, Linear.keyed, hterms, hconstant]
  simp

omit [LawfulBEq ν] in
/-- At the point where every name has the value zero the value is the constant. -/
theorem keyed_zero (e : Affine ν Rat) : e.keyed (fun _ => 0) = e.entry none := by
  simp [keyed, Linear.keyed, entry]

/-- The value grows by the factor of a key as the value of that key grows by one. -/
theorem keyed_single (e : Affine ν Rat) (key : ν) :
    e.keyed (fun x => if x == key then 1 else 0) = e.entry none + e.entry (some key) := by
  obtain ⟨⟨ts, hts⟩, c⟩ := e
  simp only [keyed, Linear.keyed, entry, Linear.factor, Linear.find?]
  congr 1
  induction ts with
  | nil => rfl
  | cons t ts ih =>
    rw [List.map_cons, List.pairwise_cons] at hts
    rw [List.map_cons, List.sum_cons, List.find?_cons, ih hts.2]
    by_cases hkey : t.key == key
    · obtain rfl : t.key = key := eq_of_beq hkey
      simp [Linear.find?_eq_none_of_distinct hts.1, Scalar.zero]
    · simp [hkey]

/-- **All entries agree exactly if all values do**: both say that the difference is zero. -/
theorem entry_eq_iff_keyed : (∀ i, e.entry i = f.entry i) ↔ ∀ v, e.keyed v = f.keyed v := by
  obtain ⟨d, hd⟩ := e.exists_addScaled (-1) f
  have hentry : ∀ i, d.entry i = e.entry i - f.entry i := by
    intro i
    rw [entry_addScaled hd]
    ring
  have hkeyed : ∀ v, d.keyed v = e.keyed v - f.keyed v := by
    intro v
    rw [keyed_addScaled hd]
    ring
  constructor
  · intro h v
    have hzero : d.keyed v = 0 := keyed_of_entry_eq_zero (fun i => by rw [hentry, h, sub_self]) v
    rw [hkeyed] at hzero
    exact sub_eq_zero.1 hzero
  · intro h i
    have hzero : ∀ v, d.keyed v = 0 := fun v => by rw [hkeyed, h, sub_self]
    have hnone : d.entry none = 0 := by rw [← keyed_zero, hzero]
    have hall : d.entry i = 0 := by
      cases i with
      | none => exact hnone
      | some key =>
        have hsingle := d.keyed_single key
        rw [hzero, hnone, zero_add] at hsingle
        exact hsingle.symm
    rw [hentry] at hall
    exact sub_eq_zero.1 hall

/-- **Equal expressions have equal values**, and the other way round. -/
theorem same_iff_keyed : e.same f = .ok true ↔ ∀ v, e.keyed v = f.keyed v :=
  same_iff_entry.trans entry_eq_iff_keyed

end Affine

/-! ### Values at names -/

section Text

variable {name : Var → String} {e f : Affine String Rat}

/-- The valuation that gives every name a number. -/
def Operand.valuation (v : String → Rat) (n : String) : Option (Operand String Rat) :=
  some (.number (v n))

/-- **Equality decides which expressions are the same function.** Equality of two expressions that
file their terms under the names of the variables can always be told. They are equal exactly if at
every valuation of the names they have the same value, and at every valuation they have one; neither
the order of the terms nor terms with the factor zero matter. -/
theorem Affine.same_iff_evaluate (he : e.Filed name) (hf : f.Filed name) :
    (∃ b, e.same f = .ok b) ∧
    (e.same f = .ok true ↔ ∀ v : String → Rat,
      e.evaluate name (Operand.valuation v) = f.evaluate name (Operand.valuation v)) ∧
    ∀ v : String → Rat, ∃ q r, e.evaluate name (Operand.valuation v) = .ok (.number q) ∧
      f.evaluate name (Operand.valuation v) = .ok (.number r) := by
  have hvalue : ∀ {d : Affine String Rat}, d.Filed name → ∀ v,
      d.evaluate name (Operand.valuation v) = .ok (.number (d.keyed v)) := by
    intro d hd v
    rw [hd.keyed_eq]
    exact Affine.evaluate_eq d
  obtain ⟨b, hb, -⟩ := e.exists_same f
  refine ⟨⟨b, hb⟩, ?_, fun v => ⟨_, _, hvalue he v, hvalue hf v⟩⟩
  rw [same_iff_keyed]
  refine forall_congr' fun v => ?_
  rw [hvalue he, hvalue hf, Except.ok.injEq, Operand.number.injEq]

/-- The variable of the index 0 is called `a`, all others `b`. -/
def twoNames (x : Var) : String := if x.index = 0 then "a" else "b"

/-- `2*b + 0*a + 1` -/
def Affine.zeroBehind : Affine String Rat :=
  ⟨Linear.ofList [⟨"b", 2, ⟨1⟩⟩, ⟨"a", 0, ⟨0⟩⟩], 1⟩

/-- `2*b + 1` -/
def Affine.zeroLeftOut : Affine String Rat := ⟨Linear.ofList [⟨"b", 2, ⟨1⟩⟩], 1⟩

theorem Affine.same_zeroBehind :
    (∀ v, zeroBehind.evaluate twoNames (Operand.valuation v) =
      zeroLeftOut.evaluate twoNames (Operand.valuation v)) ∧
    zeroBehind.linear.size ≠ zeroLeftOut.linear.size := by
  have he : zeroBehind.Filed twoNames := by
    have hterms : zeroBehind.linear.terms = [⟨"b", 2, ⟨1⟩⟩, ⟨"a", 0, ⟨0⟩⟩] := by rfl
    intro t ht
    rw [hterms] at ht
    simp only [List.mem_cons, List.not_mem_nil, or_false] at ht
    rcases ht with rfl | rfl <;> rfl
  have hf : zeroLeftOut.Filed twoNames := by
    intro t ht
    obtain rfl := List.mem_singleton.1 ht
    rfl
  refine ⟨(same_iff_evaluate he hf).2.1.1 (by decide +kernel), ?_⟩
  decide +kernel

end Text

end Milp
