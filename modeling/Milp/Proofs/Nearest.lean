import Milp.Number.Shortest
import Mathlib.Algebra.Order.Field.Power
import Mathlib.Data.Rat.Cast.Order
import Mathlib.Tactic.FieldSimp
import Mathlib.Tactic.Linarith
import Mathlib.Tactic.Ring

/-!
# Which fractions round to a double

A double that is finite and not zero is `± m · 2 ^ q` for one pair of numbers that
`Double.IsSignificand` describes. Around it lies an interval of fractions, `Double.Rounds`, and each
of them rounds to the double: `Double.ratioBits_eq_packBits`. Taking a double apart and packing its
parts again gives its bits.
-/

namespace Milp.Double

/-! ### Powers and scales -/

theorem cast_twoPow_toNat {q : Int} (h : 0 ≤ q) : (twoPow q.toNat : Rat) = 2 ^ q := by
  have hcast : (twoPow q.toNat : Rat) = 2 ^ q.toNat := Nat.cast_pow 2 q.toNat
  rw [hcast, ← zpow_natCast, Int.toNat_of_nonneg h]

theorem cast_tenPow_toNat {k : Int} (h : 0 ≤ k) : (tenPow k.toNat : Rat) = 10 ^ k := by
  have hcast : (tenPow k.toNat : Rat) = 10 ^ k.toNat := Nat.cast_pow 10 k.toNat
  rw [hcast, ← zpow_natCast, Int.toNat_of_nonneg h]

theorem two_zpow_pos (q : Int) : (0 : Rat) < 2 ^ q := zpow_pos (by norm_num) q

theorem ten_zpow_pos (k : Int) : (0 : Rat) < 10 ^ k := zpow_pos (by norm_num) k

theorem two_zpow_le_iff {a b : Int} : (2 : Rat) ^ a ≤ 2 ^ b ↔ a ≤ b :=
  zpow_le_zpow_iff_right₀ (by norm_num)

theorem two_zpow_add (a b : Int) : (2 : Rat) ^ (a + b) = 2 ^ a * 2 ^ b :=
  zpow_add₀ (by norm_num) a b

theorem two_zpow_eq_double (q : Int) : (2 : Rat) ^ q = 2 * 2 ^ (q - 1) := by
  rw [← zpow_one_add₀ (by norm_num)]
  congr 1
  omega

theorem unscale_pos {num den : Nat} (h : 0 < den) (q : Int) : 0 < (unscale num den q).2 := by
  unfold unscale
  split
  · exact Nat.mul_pos h (twoPow_pos _)
  · exact h

/-- Taking a scale off divides by it. -/
theorem unscale_value (num den : Nat) (q : Int) :
    ((unscale num den q).1 : Rat) / (unscale num den q).2 = num / den * 2 ^ (-q) := by
  unfold unscale
  split
  next h =>
    rw [Nat.cast_mul, cast_twoPow_toNat h, zpow_neg, ← div_div, div_eq_mul_inv (_ / _)]
  next h =>
    rw [Nat.cast_mul, cast_twoPow_toNat (by omega), mul_div_right_comm]

/-! ### The first binary digit -/

theorem two_pow_log2_le {n : Nat} (h : 0 < n) : (2 : Rat) ^ (Nat.log2 n : Int) ≤ n := by
  rw [zpow_natCast]
  exact_mod_cast Nat.log2_self_le h.ne'

theorem lt_two_pow_log2 (n : Nat) : (n : Rat) < 2 ^ ((Nat.log2 n : Int) + 1) := by
  rw [← Nat.cast_succ, zpow_natCast]
  exact_mod_cast Nat.lt_log2_self

variable {num den : Nat}

/-- A fraction lies between the powers of two that the lengths of its parts tell. -/
theorem between_log2 (hn : 0 < num) (hd : 0 < den) :
    (2 : Rat) ^ ((Nat.log2 num : Int) - Nat.log2 den - 1) < num / den ∧
      (num / den : Rat) < 2 ^ ((Nat.log2 num : Int) - Nat.log2 den + 1) := by
  have hden : (0 : Rat) < den := Nat.cast_pos.2 hd
  have hlow : (0 : Rat) < 2 ^ (Nat.log2 num : Int) := two_zpow_pos _
  constructor
  · rw [lt_div_iff₀ hden]
    calc (2 : Rat) ^ ((Nat.log2 num : Int) - Nat.log2 den - 1) * den
        < 2 ^ ((Nat.log2 num : Int) - Nat.log2 den - 1) * 2 ^ ((Nat.log2 den : Int) + 1) :=
          mul_lt_mul_of_pos_left (lt_two_pow_log2 den) (two_zpow_pos _)
      _ = 2 ^ (Nat.log2 num : Int) := by rw [← two_zpow_add]; congr 1; omega
      _ ≤ num := two_pow_log2_le hn
  · rw [div_lt_iff₀ hden]
    calc (num : Rat) < 2 ^ ((Nat.log2 num : Int) + 1) := lt_two_pow_log2 num
      _ = 2 ^ ((Nat.log2 num : Int) - Nat.log2 den + 1) * 2 ^ (Nat.log2 den : Int) := by
          rw [← two_zpow_add]; congr 1; omega
      _ ≤ 2 ^ ((Nat.log2 num : Int) - Nat.log2 den + 1) * den :=
          mul_le_mul_of_nonneg_left (two_pow_log2_le hd) (two_zpow_pos _).le

/-- The exponent is the greatest one that leaves so many digits in front of the point. -/
theorem le_digitExponent_iff (hn : 0 < num) (hd : 0 < den) (count : Nat) (k : Int) :
    k ≤ digitExponent (count + 1) num den ↔ (2 : Rat) ^ (k + count) ≤ num / den := by
  obtain ⟨hlow, hhigh⟩ := between_log2 hn hd
  have hden : (0 : Rat) < (unscale num den
      ((Nat.log2 num : Int) - Nat.log2 den - (((count + 1 : Nat) : Int) - 1))).2 :=
    Nat.cast_pos.2 (unscale_pos hd _)
  have hvalue := unscale_value num den
    ((Nat.log2 num : Int) - Nat.log2 den - (((count + 1 : Nat) : Int) - 1))
  unfold digitExponent
  generalize hq : (Nat.log2 num : Int) - Nat.log2 den - (((count + 1 : Nat) : Int) - 1) = q
    at hden hvalue
  have hqc : (Nat.log2 num : Int) - Nat.log2 den = q + count := by push_cast at hq; omega
  rw [hqc] at hlow hhigh
  -- the test compares the fraction with the power of two between the two bounds
  have htest : (unscale num den q).1 < (unscale num den q).2 * twoPow (count + 1 - 1) ↔
      (num / den : Rat) < 2 ^ (q + count) := by
    rw [Nat.add_sub_cancel, ← @Nat.cast_lt Rat, Nat.cast_mul, mul_comm, ← div_lt_iff₀ hden, hvalue,
      zpow_neg, ← div_eq_mul_inv, div_lt_iff₀ (two_zpow_pos q), add_comm q, two_zpow_add,
      zpow_natCast]
    have hcast : (twoPow count : Rat) = 2 ^ count := Nat.cast_pow 2 count
    rw [hcast]
  dsimp only
  split
  next h =>
    have hlt := htest.1 h
    constructor
    · intro hk
      exact ((two_zpow_le_iff.2 (by omega)).trans_lt hlow).le
    · intro hk
      by_contra hcon
      exact absurd (hk.trans_lt hlt) (not_lt.2 (two_zpow_le_iff.2 (by omega)))
  next h =>
    have hle := not_lt.1 (mt htest.2 h)
    constructor
    · intro hk
      exact (two_zpow_le_iff.2 (by omega)).trans hle
    · intro hk
      by_contra hcon
      exact absurd (hk.trans_lt hhigh) (not_lt.2 (two_zpow_le_iff.2 (by omega)))

/-! ### The nearest natural number -/

/-- A quotient is rounded to a number at most a half away; to one that is just a half away if the
number is even. -/
theorem roundDiv_eq {m : Nat} (hd : 0 < den) (hlow : 2 * m * den ≤ 2 * num + den)
    (hhigh : 2 * num ≤ (2 * m + 1) * den)
    (htie : m % 2 = 1 → 2 * m * den < 2 * num + den ∧ 2 * num < (2 * m + 1) * den) :
    roundDiv num den = m := by
  have hdiv := Nat.div_add_mod num den
  have hmod := Nat.mod_lt num hd
  generalize hk : num / den = k at hdiv
  generalize hr : num % den = r at hdiv hmod
  have hkm : k ≤ m := by
    by_contra hcon
    have := Nat.mul_le_mul_left den (show m + 1 ≤ k by omega)
    nlinarith
  have hmk : m ≤ k + 1 := by
    by_contra hcon
    have := Nat.mul_le_mul_left den (show k + 2 ≤ m by omega)
    nlinarith
  unfold roundDiv
  simp only [hk, hr]
  obtain rfl | rfl : m = k ∨ m = k + 1 := by omega
  · have hle : 2 * r ≤ den := by nlinarith
    obtain hlt | heq := hle.lt_or_eq
    · rw [if_pos hlt]
    · have heven : m % 2 ≠ 1 := fun hodd => by
        have := (htie hodd).2
        nlinarith
      rw [if_neg (by omega), if_neg (by omega)]
      omega
  · have hle : den ≤ 2 * r := by nlinarith
    obtain hlt | heq := hle.lt_or_eq
    · rw [if_neg (by omega), if_pos hlt]
    · have heven : (k + 1) % 2 ≠ 1 := fun hodd => by
        have := (htie hodd).1
        nlinarith
      rw [if_neg (by omega), if_neg (by omega)]
      omega

/-- The number to which a quotient is rounded is at most a half away. -/
theorem roundDiv_near (num : Nat) (hd : 0 < den) :
    (num / den : Rat) - 1 / 2 ≤ roundDiv num den ∧
      (roundDiv num den : Rat) ≤ num / den + 1 / 2 := by
  have hden : (0 : Rat) < den := Nat.cast_pos.2 hd
  have hdiv := Nat.div_add_mod num den
  have hmod := Nat.mod_lt num hd
  have hnear : 2 * num ≤ (2 * roundDiv num den + 1) * den ∧
      2 * roundDiv num den * den ≤ 2 * num + den := by
    unfold roundDiv
    generalize num / den = k at hdiv
    generalize num % den = r at hdiv hmod
    dsimp only
    split
    · constructor <;> nlinarith
    · split
      · constructor <;> nlinarith
      · obtain hk | hk := Nat.mod_two_eq_zero_or_one k <;> rw [hk] <;> constructor <;> nlinarith
  have hlow : (2 * num : Rat) ≤ (2 * roundDiv num den + 1) * den := by exact_mod_cast hnear.1
  have hhigh : (2 * roundDiv num den * den : Rat) ≤ 2 * num + den := by exact_mod_cast hnear.2
  constructor
  · rw [sub_le_iff_le_add, div_le_iff₀ hden]
    linarith
  · rw [← sub_le_iff_le_add, le_div_iff₀ hden]
    linarith

/-- As `roundDiv_eq`, for what the quotient comes to. -/
theorem roundDiv_eq_of_near {m : Nat} (hd : 0 < den) (hlow : (m : Rat) - 1 / 2 ≤ num / den)
    (hhigh : (num / den : Rat) ≤ m + 1 / 2)
    (htie : m % 2 = 1 → (m : Rat) - 1 / 2 < num / den ∧ (num / den : Rat) < m + 1 / 2) :
    roundDiv num den = m := by
  have hden : (0 : Rat) < den := Nat.cast_pos.2 hd
  rw [le_div_iff₀ hden] at hlow
  rw [div_le_iff₀ hden] at hhigh
  refine roundDiv_eq hd ?_ ?_ fun hodd => ?_
  · rw [← @Nat.cast_le Rat]
    push_cast
    linarith
  · rw [← @Nat.cast_le Rat]
    push_cast
    linarith
  · obtain ⟨hlow, hhigh⟩ := htie hodd
    rw [lt_div_iff₀ hden] at hlow
    rw [div_lt_iff₀ hden] at hhigh
    constructor
    · rw [← @Nat.cast_lt Rat]
      push_cast
      linarith
    · rw [← @Nat.cast_lt Rat]
      push_cast
      linarith

/-! ### The interval around a double -/

/-- The two numbers that a positive double is made of; unless the exponent is the least one, the
significand has all of its 53 digits. -/
structure IsSignificand (m : Nat) (q : Int) : Prop where
  pos : 0 < m
  lt : m < twoPow 53
  least : -1074 ≤ q
  greatest : q ≤ 971
  full : q = -1074 ∨ twoPow 52 ≤ m

/-- How many quarters of a last digit lie between a double and the end of its interval towards
zero. -/
def quartersBelow (m : Nat) (q : Int) : Nat := if m = twoPow 52 ∧ q ≠ -1074 then 1 else 2

/-- The fraction lies in the interval of `m · 2 ^ q`, the ends of which belong to it when `m` is
even. -/
structure Rounds (m : Nat) (q : Int) (x : Rat) : Prop where
  low : ((m : Rat) - quartersBelow m q / 4) * 2 ^ q ≤ x
  high : x ≤ ((m : Rat) + 1 / 2) * 2 ^ q
  inside : m % 2 = 1 →
    ((m : Rat) - quartersBelow m q / 4) * 2 ^ q < x ∧ x < ((m : Rat) + 1 / 2) * 2 ^ q

theorem quartersBelow_le (m : Nat) (q : Int) : quartersBelow m q ≤ 2 := by
  unfold quartersBelow
  split <;> omega

namespace IsSignificand

variable {m : Nat} {q : Int} {x : Rat} (h : IsSignificand m q)

include h

/-- The interval has no zero. -/
theorem pos_of_rounds (hx : Rounds m q x) : 0 < x := by
  refine lt_of_lt_of_le (mul_pos ?_ (two_zpow_pos q)) hx.low
  have hm : (1 : Rat) ≤ m := by exact_mod_cast h.pos
  have hb : (quartersBelow m q : Rat) ≤ 2 := by exact_mod_cast quartersBelow_le m q
  linarith

/-- Nothing in the interval has a digit more in front of the point. -/
theorem lt_of_rounds (hx : Rounds m q x) : x < 2 ^ (q + 1 + 52) := by
  have hm : (m : Rat) + 1 ≤ 2 ^ 53 := by exact_mod_cast (Nat.succ_le_of_lt h.lt : m + 1 ≤ 2 ^ 53)
  calc x ≤ ((m : Rat) + 1 / 2) * 2 ^ q := hx.high
    _ < 2 ^ 53 * 2 ^ q := mul_lt_mul_of_pos_right (by linarith) (two_zpow_pos q)
    _ = 2 ^ (q + 1 + 52) := by
      rw [add_assoc, two_zpow_add, mul_comm]
      norm_num

/-- Only below a power of two the interval has numbers with a digit less. -/
theorem eq_of_rounds_of_lt (hx : Rounds m q x) (hlt : x < 2 ^ (q + 52)) :
    q = -1074 ∨ m = twoPow 52 := by
  refine h.full.imp_right fun hfull => ?_
  by_contra hne
  have hm : (2 : Rat) ^ 52 + 1 ≤ m := by
    exact_mod_cast (Nat.succ_le_of_lt (lt_of_le_of_ne hfull (Ne.symm hne)) : 2 ^ 52 + 1 ≤ m)
  have hb : (quartersBelow m q : Rat) ≤ 2 := by exact_mod_cast quartersBelow_le m q
  have hle : (2 : Rat) ^ 52 * 2 ^ q ≤ ((m : Rat) - quartersBelow m q / 4) * 2 ^ q :=
    mul_le_mul_of_nonneg_right (by linarith) (two_zpow_pos q).le
  rw [add_comm, two_zpow_add] at hlt
  exact absurd (hle.trans hx.low) (not_le.2 (by exact_mod_cast hlt))

end IsSignificand

/-! ### Rounding a fraction -/

/-- A fraction is rounded on the grid of its last digit. -/
theorem ratioBits_of_near {m : Nat} {q : Int} (hn : 0 < num) (hd : 0 < den)
    (hq : lastExponent num den = q) (hlow : ((m : Rat) - 1 / 2) * 2 ^ q ≤ num / den)
    (hhigh : (num / den : Rat) ≤ (m + 1 / 2) * 2 ^ q)
    (htie : m % 2 = 1 →
      ((m : Rat) - 1 / 2) * 2 ^ q < num / den ∧ (num / den : Rat) < (m + 1 / 2) * 2 ^ q) :
    ratioBits num den = packBits m q := by
  have hvalue := unscale_value num den q
  rw [zpow_neg, ← div_eq_mul_inv] at hvalue
  unfold ratioBits
  rw [if_neg hn.ne', hq]
  dsimp only
  rw [roundDiv_eq_of_near (unscale_pos hd q) (m := m)]
  · rwa [hvalue, le_div_iff₀ (two_zpow_pos q)]
  · rwa [hvalue, div_le_iff₀ (two_zpow_pos q)]
  · rwa [hvalue, lt_div_iff₀ (two_zpow_pos q), div_lt_iff₀ (two_zpow_pos q)]

/-- A significand that is rounded up to a power of two carries over into the exponent. -/
theorem packBits_carry {q : Int} (hq : -1074 < q) :
    packBits (twoPow 53) (q - 1) = packBits (twoPow 52) q := by
  have hexponent : (q - 1 + 1075).toNat + 1 = (q + 1075).toNat := by omega
  have hpow : twoPow 53 = twoPow 52 * 2 := twoPow_succ 52
  have hpos := twoPow_pos 52
  unfold packBits
  rw [hpow]
  generalize twoPow 52 = p at hpos
  rw [if_neg (by omega), if_neg (lt_irrefl p), ← hexponent, Nat.add_mul]
  congr 1
  omega

/-- A fraction in the interval of a double that has as many digits as the double rounds to it. -/
theorem ratioBits_of_full {m : Nat} {q : Int} (hn : 0 < num) (hd : 0 < den)
    (hq : lastExponent num den = q) (hx : Rounds m q (num / den)) :
    ratioBits num den = packBits m q := by
  have hb : (quartersBelow m q : Rat) ≤ 2 := by exact_mod_cast quartersBelow_le m q
  have hend : ((m : Rat) - 1 / 2) * 2 ^ q ≤ (m - quartersBelow m q / 4) * 2 ^ q :=
    mul_le_mul_of_nonneg_right (by linarith) (two_zpow_pos q).le
  exact ratioBits_of_near hn hd hq (hend.trans hx.low) hx.high fun hodd =>
    ⟨hend.trans_lt (hx.inside hodd).1, (hx.inside hodd).2⟩

/-- What lies just below a power of two has a digit less, and is rounded up to the power. -/
theorem ratioBits_of_carry {q : Int} (hn : 0 < num) (hd : 0 < den) (hq : -1074 < q)
    (hlow : ((2 : Rat) ^ 52 - 1 / 4) * 2 ^ q ≤ num / den)
    (hlt : (num / den : Rat) < 2 ^ (q + 52)) : ratioBits num den = packBits (twoPow 52) q := by
  have hcast : (twoPow 53 : Rat) = 2 ^ 53 := Nat.cast_pow 2 53
  have hpos := two_zpow_pos (q - 1)
  have hdigit : ∀ k, k ≤ digitExponent 53 num den ↔ (2 : Rat) ^ (k + 52) ≤ num / den :=
    le_digitExponent_iff hn hd 52
  have hnot : ¬ q ≤ digitExponent 53 num den := fun hcon =>
    absurd ((hdigit q).1 hcon) (not_le.2 hlt)
  rw [two_zpow_eq_double] at hlow
  have hlower : q - 1 ≤ digitExponent 53 num den := by
    refine (hdigit (q - 1)).2 (le_trans ?_ hlow)
    rw [add_comm, two_zpow_add]
    norm_num
    linarith
  have hlast : lastExponent num den = q - 1 := by
    unfold lastExponent
    omega
  rw [← packBits_carry hq]
  refine ratioBits_of_near hn hd hlast ?_ ?_ fun hodd => absurd hodd (by decide)
  · rw [hcast]
    refine le_trans (le_of_eq ?_) hlow
    ring
  · rw [add_comm q, two_zpow_add, two_zpow_eq_double q] at hlt
    rw [hcast]
    refine hlt.le.trans ?_
    norm_num
    linarith

/-- **What lies in the interval of a double rounds to it.** -/
theorem ratioBits_eq_packBits {m : Nat} {q : Int} (h : IsSignificand m q) (hd : 0 < den)
    (hx : Rounds m q (num / den)) : ratioBits num den = packBits m q := by
  have hn : 0 < num := by
    refine Nat.pos_of_ne_zero fun hzero => (h.pos_of_rounds hx).ne' ?_
    rw [hzero, Nat.cast_zero, zero_div]
  have hdigit : ∀ k, k ≤ digitExponent 53 num den ↔ (2 : Rat) ^ (k + 52) ≤ num / den :=
    le_digitExponent_iff hn hd 52
  have hupper : digitExponent 53 num den ≤ q := by
    by_contra hcon
    exact absurd ((hdigit (q + 1)).1 (by omega)) (not_le.2 (h.lt_of_rounds hx))
  have hleast := h.least
  by_cases hsame : q = -1074 ∨ (2 : Rat) ^ (q + 52) ≤ num / den
  · refine ratioBits_of_full hn hd ?_ hx
    have hlower := hsame.imp_right (hdigit q).2
    unfold lastExponent
    omega
  · rw [not_or, not_le] at hsame
    obtain ⟨hq, hlt⟩ := hsame
    obtain rfl := (h.eq_of_rounds_of_lt hx hlt).resolve_left hq
    have hquarters : quartersBelow (twoPow 52) q = 1 := if_pos ⟨rfl, hq⟩
    have hcast : (twoPow 52 : Rat) = 2 ^ 52 := Nat.cast_pow 2 52
    have hlow := hx.low
    rw [hquarters, hcast, Nat.cast_one] at hlow
    exact ratioBits_of_carry hn hd (lt_of_le_of_ne hleast (Ne.symm hq)) hlow hlt

end Milp.Double
