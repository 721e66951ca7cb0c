import Milp.Proofs.Bits

/-!
# The shortest decimal of a double

The search for the shortest decimal of a double comes to an end, with one that lies in the interval
of the double: `Double.shortest_rounds`. It does so because seventeen digits suffice: the last of
them counts less than the interval is wide. A decimal in the interval is read as the double, however
its digits are divided between the number in front and the power of ten: `Double.ofDecimal_eq`.
-/

namespace Milp.Double

/-! ### Powers of two and of ten -/

/-- A power of two is at most a power of ten if its exponent is small enough; `2 ^ 93` is a little
less than `10 ^ 28`, and `10 ^ 3` a little less than `2 ^ 10`. -/
theorem two_zpow_le_ten_zpow {a b : Int}
    (h : 0 ≤ b ∧ 28 * a ≤ 93 * b ∨ b ≤ 0 ∧ 3 * a ≤ 10 * b) : (2 : Rat) ^ a ≤ 10 ^ b := by
  have htwo := (two_zpow_pos a).le
  have hten := (ten_zpow_pos b).le
  obtain ⟨hb, h⟩ | ⟨hb, h⟩ := h
  · refine (pow_le_pow_iff_left₀ htwo hten (n := 28) (by decide)).1 ?_
    calc ((2 : Rat) ^ a) ^ 28 = 2 ^ (28 * a) := by
          rw [← zpow_natCast, ← zpow_mul, mul_comm]
          rfl
      _ ≤ 2 ^ (93 * b) := two_zpow_le_iff.2 h
      _ = ((2 : Rat) ^ (93 : Int)) ^ b := zpow_mul _ _ _
      _ ≤ ((10 : Rat) ^ (28 : Int)) ^ b :=
          zpow_le_zpow_left₀ hb (by positivity) (by norm_num)
      _ = ((10 : Rat) ^ b) ^ 28 := by
          rw [← zpow_mul, mul_comm, zpow_mul, ← zpow_natCast]
          rfl
  · refine (pow_le_pow_iff_left₀ htwo hten (n := 3) (by decide)).1 ?_
    calc ((2 : Rat) ^ a) ^ 3 = 2 ^ (3 * a) := by
          rw [← zpow_natCast, ← zpow_mul, mul_comm]
          rfl
      _ ≤ 2 ^ (10 * b) := two_zpow_le_iff.2 h
      _ = (((2 : Rat) ^ (10 : Int)) ^ (-b))⁻¹ := by rw [← zpow_mul, ← zpow_neg]; congr 1; ring
      _ ≤ (((10 : Rat) ^ (3 : Int)) ^ (-b))⁻¹ := by
          refine inv_anti₀ (by positivity) (zpow_le_zpow_left₀ (by omega) (by positivity) ?_)
          norm_num
      _ = ((10 : Rat) ^ b) ^ 3 := by
          rw [← zpow_mul, ← zpow_neg, ← zpow_natCast, ← zpow_mul]
          congr 1
          push_cast
          ring

/-- As `two_zpow_le_ten_zpow`, the other way round. -/
theorem ten_zpow_le_two_zpow {a b : Int}
    (h : 0 ≤ -a ∧ 28 * -b ≤ 93 * -a ∨ -a ≤ 0 ∧ 3 * -b ≤ 10 * -a) : (10 : Rat) ^ a ≤ 2 ^ b := by
  have hle := two_zpow_le_ten_zpow h
  rwa [zpow_neg, zpow_neg, inv_le_inv₀ (two_zpow_pos b) (ten_zpow_pos a)] at hle

/-! ### The interval as a fraction -/

section Interval

variable {m : Nat} {q : Int}

theorem neighbourhood_den_pos (m : Nat) (q : Int) : 0 < (neighbourhood m q).den := by
  unfold neighbourhood
  dsimp only
  split
  · exact Nat.one_pos
  · exact twoPow_pos _

/-- A quarter of a last digit is what the parts of the interval are counted in. -/
theorem quarter_div_den (n : Nat) (m : Nat) (q : Int) :
    ((n * (if 2 ≤ q then twoPow (q - 2).toNat else 1) : Nat) : Rat) / (neighbourhood m q).den =
      n / 4 * 2 ^ q := by
  have hquarter : (2 : Rat) ^ (q - 2) = 2 ^ q / 4 := by
    rw [zpow_sub₀ (by norm_num)]
    norm_num
  unfold neighbourhood
  dsimp only
  split
  next h =>
    rw [Nat.cast_mul, cast_twoPow_toNat (by omega), hquarter, Nat.cast_one]
    ring
  next h =>
    rw [Nat.mul_one, cast_twoPow_toNat (by omega), ← neg_sub q 2, zpow_neg, hquarter]
    field_simp

theorem value_div_den (m : Nat) (q : Int) :
    ((neighbourhood m q).value : Rat) / (neighbourhood m q).den = m * 2 ^ q := by
  refine (quarter_div_den (4 * m) m q).trans ?_
  push_cast
  ring

theorem high_div_den (m : Nat) (q : Int) :
    ((neighbourhood m q).high : Rat) / (neighbourhood m q).den = (m + 1 / 2) * 2 ^ q := by
  refine (quarter_div_den (4 * m + 2) m q).trans ?_
  push_cast
  ring

theorem low_div_den (hm : 0 < m) : ((neighbourhood m q).low : Rat) / (neighbourhood m q).den =
    (m - quartersBelow m q / 4) * 2 ^ q := by
  have hle : quartersBelow m q ≤ 4 * m := (quartersBelow_le m q).trans (by omega)
  refine (quarter_div_den (4 * m - quartersBelow m q) m q).trans ?_
  rw [Nat.cast_sub hle]
  push_cast
  ring

variable (v : Neighbourhood) (d : Nat) (k : Int)

/-- A decimal is compared with a fraction of the interval across the denominators. -/
theorem Neighbourhood.compare (hv : 0 < v.den) (a : Nat) :
    let n := if 0 ≤ k then d * tenPow k.toNat * v.den else d * v.den
    let scale := if 0 ≤ k then 1 else tenPow (-k).toNat
    ((a * scale ≤ n ↔ (a / v.den : Rat) ≤ d * 10 ^ k) ∧
      (n ≤ a * scale ↔ (d * 10 ^ k : Rat) ≤ a / v.den)) := by
  intro n scale
  have hden : (0 : Rat) < v.den := Nat.cast_pos.2 hv
  have hscale : (0 : Rat) < scale := by
    refine Nat.cast_pos.2 ?_
    unfold scale
    split
    · exact Nat.one_pos
    · exact tenPow_pos _
  have hn : (n : Rat) = d * 10 ^ k * v.den * scale := by
    unfold n scale
    split
    next h => rw [Nat.cast_mul, Nat.cast_mul, cast_tenPow_toNat h, Nat.cast_one, mul_one]
    next h =>
      have hpow := (ten_zpow_pos k).ne'
      rw [Nat.cast_mul, cast_tenPow_toNat (by omega), zpow_neg]
      field_simp
  constructor
  · rw [div_le_iff₀ hden, ← @Nat.cast_le Rat, hn, Nat.cast_mul, mul_le_mul_iff_left₀ hscale]
  · rw [le_div_iff₀ hden, ← @Nat.cast_le Rat, hn, Nat.cast_mul, mul_le_mul_iff_left₀ hscale]

/-- **The test of a decimal tells whether it lies in the interval.** -/
theorem holds_iff (hm : 0 < m) : (neighbourhood m q).holds d k = true ↔ Rounds m q (d * 10 ^ k) := by
  have hlow := Neighbourhood.compare (neighbourhood m q) d k (neighbourhood_den_pos m q)
    (neighbourhood m q).low
  have hhigh := Neighbourhood.compare (neighbourhood m q) d k (neighbourhood_den_pos m q)
    (neighbourhood m q).high
  dsimp only at hlow hhigh
  rw [low_div_den hm] at hlow
  rw [high_div_den] at hhigh
  have hclosed : (neighbourhood m q).closed = decide (m % 2 = 0) := rfl
  unfold Neighbourhood.holds
  dsimp only
  rw [hclosed]
  by_cases heven : m % 2 = 0
  · rw [if_pos (decide_eq_true heven), Bool.and_eq_true, decide_eq_true_eq, decide_eq_true_eq,
      hlow.1, hhigh.2]
    constructor
    · exact fun h => ⟨h.1, h.2, fun hodd => by omega⟩
    · exact fun h => ⟨h.low, h.high⟩
  · rw [if_neg (by simp [heven]), Bool.and_eq_true, decide_eq_true_eq, decide_eq_true_eq,
      ← not_le, ← not_le, hlow.2, hhigh.1, not_le, not_le]
    constructor
    · exact fun h => ⟨h.1.le, h.2.le, fun _ => h⟩
    · exact fun h => h.inside (by omega)

/-- The value of the double on a decimal grid. -/
theorem inTens_value (m : Nat) (q k : Int) :
    0 < ((neighbourhood m q).inTens k).2 ∧
      (((neighbourhood m q).inTens k).1 : Rat) / ((neighbourhood m q).inTens k).2 =
        m * 2 ^ q / 10 ^ k := by
  have hden := neighbourhood_den_pos m q
  rw [← value_div_den m q]
  unfold Neighbourhood.inTens
  split
  next h =>
    refine ⟨Nat.mul_pos hden (tenPow_pos _), ?_⟩
    rw [Nat.cast_mul, cast_tenPow_toNat h, div_div]
  next h =>
    refine ⟨hden, ?_⟩
    rw [Nat.cast_mul, cast_tenPow_toNat (by omega), zpow_neg, mul_div_right_comm, ← div_eq_mul_inv]

end Interval

/-! ### The search -/

/-- The nearest decimal on a grid that is fine enough lies in the interval. -/
theorem rounds_nearest {m : Nat} {q k : Int} (hk : (10 : Rat) ^ k < 2 ^ q)
    (hpow : m = twoPow 52 → 2 * (10 : Rat) ^ k < 2 ^ q) : Rounds m q
      ((roundDiv ((neighbourhood m q).inTens k).1 ((neighbourhood m q).inTens k).2 : Nat) *
        10 ^ k) := by
  obtain ⟨hpos, hvalue⟩ := inTens_value m q k
  obtain ⟨hlow, hhigh⟩ := roundDiv_near ((neighbourhood m q).inTens k).1 hpos
  rw [hvalue] at hlow hhigh
  generalize ((roundDiv ((neighbourhood m q).inTens k).1 ((neighbourhood m q).inTens k).2 : Nat) :
    Rat) = d at hlow hhigh
  have hten := ten_zpow_pos k
  -- the decimal is at most half a step of the grid away, the end of the interval farther
  have hnear : (m * 2 ^ q : Rat) - 10 ^ k / 2 ≤ d * 10 ^ k ∧
      d * 10 ^ k ≤ (m * 2 ^ q : Rat) + 10 ^ k / 2 := by
    constructor
    · calc (m * 2 ^ q : Rat) - 10 ^ k / 2 = (m * 2 ^ q / 10 ^ k - 1 / 2) * 10 ^ k := by field_simp
        _ ≤ d * 10 ^ k := mul_le_mul_of_nonneg_right hlow hten.le
    · calc d * 10 ^ k ≤ (m * 2 ^ q / 10 ^ k + 1 / 2) * 10 ^ k :=
          mul_le_mul_of_nonneg_right hhigh hten.le
        _ = (m * 2 ^ q : Rat) + 10 ^ k / 2 := by field_simp
  have hend : (10 : Rat) ^ k / 2 < quartersBelow m q / 4 * 2 ^ q := by
    unfold quartersBelow
    split
    next hm =>
      have := hpow hm.1
      push_cast
      linarith
    next =>
      push_cast
      linarith
  have hinside : ((m : Rat) - quartersBelow m q / 4) * 2 ^ q < d * 10 ^ k ∧
      d * 10 ^ k < ((m : Rat) + 1 / 2) * 2 ^ q := by
    rw [sub_mul, add_mul]
    constructor
    · linarith
    · linarith
  exact ⟨hinside.1.le, hinside.2.le, fun _ => hinside⟩

section Search

variable {m : Nat} {q : Int} (h : IsSignificand m q)

include h

theorem IsSignificand.value_pos : (0 : Rat) < m * 2 ^ q :=
  mul_pos (Nat.cast_pos.2 h.pos) (two_zpow_pos q)

/-- The doubles lie between the least and the greatest one. -/
theorem IsSignificand.value_bounds :
    (2 : Rat) ^ (-1074 : Int) ≤ m * 2 ^ q ∧ (m * 2 ^ q : Rat) < 2 ^ (1024 : Int) := by
  have hone : (1 : Rat) ≤ m := by exact_mod_cast h.pos
  have hlt : (m : Rat) < 2 ^ (53 : Int) := by exact_mod_cast (h.lt : m < 2 ^ 53)
  constructor
  · calc (2 : Rat) ^ (-1074 : Int) ≤ 2 ^ q := two_zpow_le_iff.2 h.least
      _ ≤ m * 2 ^ q := le_mul_of_one_le_left (two_zpow_pos q).le hone
  · calc (m * 2 ^ q : Rat) < 2 ^ (53 : Int) * 2 ^ q := mul_lt_mul_of_pos_right hlt (two_zpow_pos q)
      _ = 2 ^ (53 + q) := (two_zpow_add 53 q).symm
      _ ≤ 2 ^ (1024 : Int) := two_zpow_le_iff.2 (by have := h.greatest; omega)

theorem IsSignificand.neighbourhood_value_pos : 0 < (neighbourhood m q).value := by
  have hpos := h.value_pos
  rw [← value_div_den] at hpos
  by_contra hcon
  rw [Nat.eq_zero_of_not_pos hcon, Nat.cast_zero, zero_div] at hpos
  exact lt_irrefl _ hpos

/-- **The first guess at the exponent** is too small by at most five. -/
theorem IsSignificand.guess_bounds :
    let guess := ((Nat.log2 (neighbourhood m q).value : Int) -
      Nat.log2 (neighbourhood m q).den) * 30103 / 100000 - 2
    (10 : Rat) ^ (guess - 1) ≤ m * 2 ^ q ∧ (m * 2 ^ q : Rat) < 10 ^ (guess + 5) := by
  have hbounds := h.value_bounds
  have hlog := between_log2 h.neighbourhood_value_pos (neighbourhood_den_pos m q)
  rw [value_div_den] at hlog
  generalize (Nat.log2 (neighbourhood m q).value : Int) - Nat.log2 (neighbourhood m q).den = l
    at hlog
  have hl : -1076 < l ∧ l < 1026 := by
    have hlow := hlog.1.trans hbounds.2
    have hhigh := hbounds.1.trans_lt hlog.2
    rw [zpow_lt_zpow_iff_right₀ (by norm_num)] at hlow hhigh
    omega
  exact ⟨(ten_zpow_le_two_zpow (by omega)).trans hlog.1.le,
    hlog.2.trans_le (two_zpow_le_ten_zpow (by omega))⟩

omit h in
/-- The double is compared with a power of ten on the grid. -/
theorem inTens_lt_iff (k : Int) : ((neighbourhood m q).inTens k).1 < ((neighbourhood m q).inTens k).2 ↔
    (m * 2 ^ q : Rat) < 10 ^ k := by
  obtain ⟨hpos, heq⟩ := inTens_value m q k
  rw [← div_lt_one (ten_zpow_pos _), ← heq, div_lt_one (Nat.cast_pos.2 hpos), Nat.cast_lt]

/-- **The exponent that is found** is that of the least power of ten above the double. -/
theorem exponent_spec : (10 : Rat) ^ ((neighbourhood m q).exponent - 1) ≤ m * 2 ^ q ∧
    (m * 2 ^ q : Rat) < 10 ^ (neighbourhood m q).exponent := by
  obtain ⟨hlow, hhigh⟩ := h.guess_bounds
  unfold Neighbourhood.exponent
  dsimp only at hlow hhigh ⊢
  generalize ((Nat.log2 (neighbourhood m q).value : Int) -
    Nat.log2 (neighbourhood m q).den) * 30103 / 100000 - 2 = guess at hlow hhigh
  cases hfind : (List.range 6).find? fun i : Nat =>
      decide (((neighbourhood m q).inTens (guess + i)).1 <
        ((neighbourhood m q).inTens (guess + i)).2) with
  | none =>
    have hnone := List.find?_eq_none.1 hfind 5 (by decide)
    exact absurd (decide_eq_true ((inTens_lt_iff (guess + 5)).2 hhigh)) hnone
  | some i =>
    obtain ⟨hi, -, hless⟩ := List.find?_range_eq_some.1 hfind
    rw [Option.getD_some]
    refine ⟨?_, (inTens_lt_iff _).1 (of_decide_eq_true hi)⟩
    cases i with
    | zero => rwa [Nat.cast_zero, add_zero]
    | succ j =>
      have hj := hless j (Nat.lt_succ_self j)
      rw [Bool.not_eq_true', decide_eq_false_iff_not, inTens_lt_iff, not_lt] at hj
      have hexp : guess + ((j + 1 : Nat) : Int) - 1 = guess + j := by
        push_cast
        ring
      rwa [hexp]

/-- Seventeen digits suffice. -/
theorem onGrid_seventeen : ∃ d, (neighbourhood m q).onGrid? ((neighbourhood m q).exponent - 17) =
    some d := by
  have hten : (10 : Rat) ^ ((neighbourhood m q).exponent - 17) * 10 ^ 16 ≤ m * 2 ^ q := by
    refine le_trans (le_of_eq ?_) (exponent_spec h).1
    rw [← zpow_natCast, ← zpow_add₀ (by norm_num)]
    congr 1
    ring
  have hm : (m : Rat) < 2 ^ 53 := by exact_mod_cast (h.lt : m < 2 ^ 53)
  have hpos := two_zpow_pos q
  refine ⟨_, if_pos ((holds_iff _ _ h.pos).2 (rounds_nearest ?_ fun hm => ?_))⟩
  · have := mul_lt_mul_of_pos_right hm hpos
    norm_num at this hten
    linarith
  · have hcast : (m : Rat) = 2 ^ 52 := by rw [hm]; exact Nat.cast_pow 2 52
    rw [hcast] at hten
    norm_num at hten
    linarith

end Search

/-- A decimal that is found on a grid lies in the interval, and next to the double. -/
theorem onGrid_eq_some {m : Nat} {q k : Int} {d : Nat} (hm : 0 < m)
    (h : (neighbourhood m q).onGrid? k = some d) :
    Rounds m q (d * 10 ^ k) ∧ (d : Rat) ≤ m * 2 ^ q / 10 ^ k + 1 := by
  obtain ⟨hpos, hvalue⟩ := inTens_value m q k
  have hdiv := @Nat.cast_div_le Rat _ _ _ ((neighbourhood m q).inTens k).1
    ((neighbourhood m q).inTens k).2
  rw [hvalue] at hdiv
  have hmod := Nat.mod_two_eq_zero_or_one
    (((neighbourhood m q).inTens k).1 / ((neighbourhood m q).inTens k).2)
  unfold Neighbourhood.onGrid? at h
  dsimp only at h
  generalize ((neighbourhood m q).inTens k).1 / ((neighbourhood m q).inTens k).2 = a
    at h hdiv hmod
  generalize ((neighbourhood m q).inTens k).1 % ((neighbourhood m q).inTens k).2 = r at h
  generalize ((neighbourhood m q).inTens k).2 = den at h
  have hnearer : (if 2 * r < den then a else if den < 2 * r then a + 1 else a + a % 2) ≤ a + 1 := by
    split_ifs <;> omega
  generalize (if 2 * r < den then a else if den < 2 * r then a + 1 else a + a % 2) = nearer
    at h hnearer
  have hother : (if nearer = a then a + 1 else a) ≤ a + 1 := by split_ifs <;> omega
  generalize (if nearer = a then a + 1 else a) = other at h hother
  have hle : ∀ b : Nat, b ≤ a + 1 → (b : Rat) ≤ m * 2 ^ q / 10 ^ k + 1 := by
    intro b hb
    have hcast : (b : Rat) ≤ a + 1 := by exact_mod_cast hb
    linarith
  split at h
  next hholds =>
    obtain rfl := Option.some.inj h
    exact ⟨(holds_iff _ _ hm).1 hholds, hle _ hnearer⟩
  next =>
    split at h
    next hholds =>
      obtain rfl := Option.some.inj h
      exact ⟨(holds_iff _ _ hm).1 hholds, hle _ hother⟩
    next => exact nomatch h

/-- **The shortest decimal rounds to the double.** It has at most seventeen digits, or is a power of
ten. -/
theorem shortest_rounds {m : Nat} {q : Int} (h : IsSignificand m q) :
    Rounds m q ((shortest m q).1 * 10 ^ (shortest m q).2) ∧ (shortest m q).1 ≤ 10 ^ 17 := by
  obtain ⟨-, hhigh⟩ := exponent_spec h
  obtain ⟨d₀, hgrid⟩ := onGrid_seventeen h
  unfold shortest
  dsimp only
  generalize (neighbourhood m q).exponent = e at hhigh hgrid
  cases hfind : (List.range 17).findSome? fun i : Nat =>
      ((neighbourhood m q).onGrid? (e - (i + 1))).map fun d => (d, e - ((i : Int) + 1)) with
  | none =>
    have hnone := List.findSome?_eq_none_iff.1 hfind 16 (by decide)
    have hexp : e - (((16 : Nat) : Int) + 1) = e - 17 := rfl
    rw [hexp, hgrid] at hnone
    exact nomatch hnone
  | some r =>
    obtain ⟨i, hi, hr⟩ := List.exists_of_findSome?_eq_some hfind
    obtain ⟨d, hd, rfl⟩ := Option.map_eq_some_iff.1 hr
    obtain ⟨hrounds, hle⟩ := onGrid_eq_some h.pos hd
    rw [Option.getD_some]
    refine ⟨hrounds, ?_⟩
    -- the double is below `10 ^ e`, so that it has at most `i + 1` digits on the grid
    have hdigits : (m * 2 ^ q / 10 ^ (e - ((i : Int) + 1)) : Rat) < 10 ^ (i + 1) := by
      rw [div_lt_iff₀ (ten_zpow_pos _)]
      refine hhigh.trans_eq ?_
      rw [← zpow_natCast, ← zpow_add₀ (by norm_num)]
      congr 1
      push_cast
      ring
    have hlt : (d : Rat) < (10 ^ (i + 1) + 1 : Nat) := by
      push_cast
      linarith
    calc d ≤ 10 ^ (i + 1) := Nat.lt_succ_iff.1 (Nat.cast_lt.1 hlt)
      _ ≤ 10 ^ 17 := Nat.pow_le_pow_right (by decide) (by have := List.mem_range.1 hi; omega)

/-! ### Reading a decimal -/

/-- What lies in the interval of a double is neither too small nor too large for the doubles. -/
theorem IsSignificand.rounds_bounds {m : Nat} {q : Int} {y : Rat} (h : IsSignificand m q)
    (hy : Rounds m q y) : (2 : Rat) ^ (-1075 : Int) ≤ y ∧ y < 2 ^ (1024 : Int) := by
  constructor
  · have hone : (1 : Rat) ≤ m := by exact_mod_cast h.pos
    have hb : (quartersBelow m q : Rat) ≤ 2 := by exact_mod_cast quartersBelow_le m q
    calc (2 : Rat) ^ (-1075 : Int) ≤ 2 ^ (-1 + q) :=
          two_zpow_le_iff.2 (by have := h.least; omega)
      _ = 1 / 2 * 2 ^ q := by rw [two_zpow_add]; norm_num
      _ ≤ (m - quartersBelow m q / 4) * 2 ^ q :=
          mul_le_mul_of_nonneg_right (by linarith) (two_zpow_pos q).le
      _ ≤ y := hy.low
  · exact (h.lt_of_rounds hy).trans_le (two_zpow_le_iff.2 (by have := h.greatest; omega))

/-- A decimal that is dismissed as too small is less than half the least double. -/
theorem decimal_lt_of_small {d : Nat} {k : Int} (hlog : Nat.log2 d ≤ 200)
    (h : (Nat.log2 d : Int) * 30103 / 100000 + k < -400) :
    (d * 10 ^ k : Rat) < 2 ^ (-1075 : Int) := by
  have hten := ten_zpow_pos k
  have hle : (2 : Rat) ^ ((Nat.log2 d : Int) + 1 + 1075) ≤ 10 ^ (-k) :=
    two_zpow_le_ten_zpow (by omega)
  calc (d * 10 ^ k : Rat) < 2 ^ ((Nat.log2 d : Int) + 1) * 10 ^ k :=
        mul_lt_mul_of_pos_right (lt_two_pow_log2 d) hten
    _ = 2 ^ ((Nat.log2 d : Int) + 1 + 1075) * 10 ^ k * 2 ^ (-1075 : Int) := by
        rw [two_zpow_add _ 1075, mul_right_comm, mul_assoc _ ((2 : Rat) ^ (1075 : Int)),
          ← two_zpow_add, Int.add_right_neg, zpow_zero, mul_one]
    _ ≤ 10 ^ (-k) * 10 ^ k * 2 ^ (-1075 : Int) :=
        mul_le_mul_of_nonneg_right (mul_le_mul_of_nonneg_right hle hten.le) (two_zpow_pos _).le
    _ = 2 ^ (-1075 : Int) := by
        rw [zpow_neg, inv_mul_cancel₀ hten.ne', one_mul]

/-- A decimal that is dismissed as too large is beyond all doubles. -/
theorem le_decimal_of_large {d : Nat} {k : Int} (hlog : Nat.log2 d ≤ 200) (hd : 0 < d)
    (h : 400 < (Nat.log2 d : Int) * 30103 / 100000 + k) :
    (2 : Rat) ^ (1024 : Int) ≤ d * 10 ^ k := by
  have hle : (2 : Rat) ^ (1024 - (Nat.log2 d : Int)) ≤ 10 ^ k := two_zpow_le_ten_zpow (by omega)
  calc (2 : Rat) ^ (1024 : Int) = 2 ^ (Nat.log2 d : Int) * 2 ^ (1024 - (Nat.log2 d : Int)) := by
        rw [← two_zpow_add]
        congr 1
        ring
    _ ≤ d * 10 ^ k :=
        mul_le_mul (two_pow_log2_le hd) hle (two_zpow_pos _).le (Nat.cast_nonneg d)

/-- **A decimal in the interval of a double is read as the double**, unless it has very many
digits. -/
theorem ofDecimal_eq {x : Float} {negative : Bool} {m : Nat} {q : Int} {d : Nat} {k : Int}
    (hx : parts x = .finite negative m q) (hm : m ≠ 0) (hd : Nat.log2 d ≤ 200)
    (hrounds : Rounds m q (d * 10 ^ k)) : ofDecimal negative d k = x := by
  have hs := (toBits_of_finite hx).1.resolve_left hm
  have hpos : 0 < d := by
    refine Nat.pos_of_ne_zero fun hzero => (hs.pos_of_rounds hrounds).ne' ?_
    rw [hzero, Nat.cast_zero, zero_mul]
  obtain ⟨hlow, hhigh⟩ := hs.rounds_bounds hrounds
  have hsmall : ¬ ((Nat.log2 d : Int) * 30103 / 100000 + k < -400) := fun h =>
    absurd hlow (not_le.2 (decimal_lt_of_small hd h))
  have hlarge : ¬ (400 < (Nat.log2 d : Int) * 30103 / 100000 + k) := fun h =>
    absurd hhigh (not_lt.2 (le_decimal_of_large hd hpos h))
  unfold ofDecimal
  dsimp only
  rw [if_neg (not_or.2 ⟨hpos.ne', hsmall⟩), if_neg hlarge]
  split
  next hk =>
    refine ofRatio_eq hx hm Nat.one_pos ?_
    rwa [Nat.cast_mul, cast_tenPow_toNat hk, Nat.cast_one, div_one]
  next hk =>
    refine ofRatio_eq hx hm (tenPow_pos _) ?_
    rwa [cast_tenPow_toNat (by omega), zpow_neg, div_inv_eq_mul]

end Milp.Double
