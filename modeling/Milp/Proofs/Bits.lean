import Mathlib
import Milp.Proofs.Nearest

/-!
# The bits of a double

A double is its bits, and the parts into which it is taken are packed into these bits again:
`Double.toBits_of_finite`. So a fraction in the interval of a double is read as the double itself,
and the words for what is no finite number stand for one double each.
-/

namespace Milp.Double

open Float.Model (UnpackedFloat Format)

variable {x : Float} {negative : Bool} {m : Nat} {q : Int}

theorem ofBits_toNat (x : Float) : Float.ofBits (UInt64.ofNat x.toBits.toNat) = x := by
  rw [UInt64.ofNat_toNat, Float.ofBits_toBits]

/-- The bits are a sign, an exponent and a fraction. -/
theorem toBits_eq (x : Float) :
    x.toBits.toNat = signBit (decide (twoPow 63 ≤ x.toBits.toNat)) +
      (x.toBits.toNat / twoPow 52 % twoPow 11 * twoPow 52 + x.toBits.toNat % twoPow 52) := by
  have hlt := x.toBits.toNat_lt
  generalize x.toBits.toNat = bits at hlt
  have h11 : twoPow 11 = 2048 := rfl
  have h52 : twoPow 52 = 4503599627370496 := rfl
  have h63 : twoPow 63 = 9223372036854775808 := rfl
  unfold signBit
  rw [h11, h52, h63]
  split
  next h =>
    have := of_decide_eq_true h
    omega
  next h =>
    have := of_decide_eq_false (Bool.not_eq_true _ ▸ h)
    omega

theorem packBits_zero (q : Int) : packBits 0 q = 0 := by
  unfold packBits
  rw [if_pos (twoPow_pos 52), Nat.min_zero]

/-- The parts of a double are never packed into the bits of infinity. -/
theorem packBits_eq (h : IsSignificand m q) : packBits m q =
    if m < twoPow 52 then m else (q + 1075).toNat * twoPow 52 + (m - twoPow 52) := by
  have h52 : twoPow 52 = 4503599627370496 := rfl
  have h53 : twoPow 53 = 9007199254740992 := rfl
  have hinf : infinityBits = 2047 * 4503599627370496 := rfl
  have hlt := h.lt
  have hgreatest := h.greatest
  unfold packBits
  rw [h53] at hlt
  rw [h52, hinf, Nat.min_eq_right]
  split
  · omega
  · have hq : (q + 1075).toNat ≤ 2046 := by omega
    omega

/-- **The bits of a double are its parts, packed.** -/
theorem toBits_of_finite (h : parts x = .finite negative m q) :
    (m = 0 ∨ IsSignificand m q) ∧ x.toBits.toNat = signBit negative + packBits m q := by
  have hbits := toBits_eq x
  have h52 : twoPow 52 = 4503599627370496 := rfl
  have h53 : twoPow 53 = 9007199254740992 := rfl
  have hexponent := Nat.mod_lt (x.toBits.toNat / twoPow 52) (twoPow_pos 11)
  have hfraction := Nat.mod_lt x.toBits.toNat (twoPow_pos 52)
  have h11 : twoPow 11 = 2048 := rfl
  unfold parts at h
  dsimp only at h
  generalize x.toBits.toNat / twoPow 52 % twoPow 11 = e at h hbits hexponent
  generalize x.toBits.toNat % twoPow 52 = f at h hbits hfraction
  generalize decide (twoPow 63 ≤ x.toBits.toNat) = s at h hbits
  split at h
  · split at h <;> exact nomatch h
  next hne =>
    split at h
    next hzero =>
      obtain ⟨rfl, rfl, rfl⟩ := Parts.finite.inj h
      rw [hzero, Nat.zero_mul, Nat.zero_add] at hbits
      by_cases hf : f = 0
      · refine ⟨.inl hf, ?_⟩
        rw [hbits, hf, packBits_zero]
      · have hs : IsSignificand f (-1074) :=
          ⟨Nat.pos_of_ne_zero hf, by omega, le_rfl, by omega, .inl rfl⟩
        refine ⟨.inr hs, ?_⟩
        rw [hbits, packBits_eq hs, if_pos hfraction]
    next hzero =>
      obtain ⟨rfl, rfl, rfl⟩ := Parts.finite.inj h
      have hs : IsSignificand (twoPow 52 + f) ((e : Int) - 1075) :=
        ⟨by omega, by omega, by omega, by omega, .inr (Nat.le_add_right _ _)⟩
      refine ⟨.inr hs, ?_⟩
      have he : ((e : Int) - 1075 + 1075).toNat = e := by omega
      rw [packBits_eq hs, if_neg (Nat.not_lt.2 (Nat.le_add_right _ _)), he, Nat.add_sub_cancel_left]
      exact hbits

theorem toBits_of_infinite (h : parts x = .infinite negative) :
    x.toBits.toNat = signBit negative + infinityBits := by
  have hbits := toBits_eq x
  unfold parts at h
  dsimp only at h
  generalize x.toBits.toNat / twoPow 52 % twoPow 11 = e at h hbits
  generalize x.toBits.toNat % twoPow 52 = f at h hbits
  generalize decide (twoPow 63 ≤ x.toBits.toNat) = s at h hbits
  split at h
  next he =>
    split at h
    next hf =>
      obtain rfl := Parts.infinite.inj h
      rw [hbits, he, hf, Nat.add_zero, infinityBits]
    next => exact nomatch h
  next => split at h <;> exact nomatch h

/-- An infinite double is the one of its sign. -/
theorem eq_of_infinite (h : parts x = .infinite negative) :
    x = Float.ofBits (UInt64.ofNat (signBit negative + infinityBits)) := by
  rw [← toBits_of_infinite h, ofBits_toNat]

/-- There is only one double that is not a number. -/
theorem eq_of_nan (h : parts x = .nan) : x = Float.ofBits 0x7FF8000000000000 := by
  have hbits : x.toBits.toNat / twoPow 52 % twoPow 11 = 2047 ∧ x.toBits.toNat % twoPow 52 ≠ 0 := by
    unfold parts at h
    dsimp only at h
    split at h
    next he =>
      split at h
      · exact nomatch h
      next hf => exact ⟨he, hf⟩
    next => split at h <;> exact nomatch h
  have hexponent : @UnpackedFloat.unpackExponent Format.binary64 x.toBits.toBitVec = -1#_ := by
    apply BitVec.eq_of_toNat_eq
    simp only [UnpackedFloat.unpackExponent, BitVec.toNat_cast]
    rw [BitVec.extractLsb_toNat, Nat.shiftRight_eq_div_pow]
    exact hbits.1
  have hmantissa : @UnpackedFloat.unpackMantissa Format.binary64 x.toBits.toBitVec ≠ 0#_ := by
    intro hzero
    have hnat := congrArg BitVec.toNat hzero
    simp only [UnpackedFloat.unpackMantissa, BitVec.toNat_cast] at hnat
    rw [BitVec.extractLsb_toNat, Nat.shiftRight_zero] at hnat
    exact hbits.2 hnat
  have hnan : x.toBits.toBitVec = UnpackedFloat.packedNaN Format.binary64 :=
    x.toModel.valid.eq_packedNaN hexponent hmantissa
  have hword : x.toBits = 0x7FF8000000000000 := by
    rw [← UInt64.toBitVec_inj, hnan]
    decide
  rw [← Float.ofBits_toBits x, hword]

/-- A fraction in the interval of a double rounds to the double itself. -/
theorem ofRatio_eq {num den : Nat} (h : parts x = .finite negative m q) (hm : m ≠ 0)
    (hd : 0 < den) (hx : Rounds m q (num / den)) : ofRatio negative num den = x := by
  obtain ⟨hs, hbits⟩ := toBits_of_finite h
  rw [ofRatio, ratioBits_eq_packBits (hs.resolve_left hm) hd hx, ← hbits, ofBits_toNat]

end Milp.Double
