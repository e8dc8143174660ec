import Mathlib.Tactic.SplitIfs
import RecordStream.Binary64.Number

/-!
Quotients that are not too large. The grid of a quotient has room for it, so that the significand
takes fifty-four bits at most and the exponent alone decides whether the result is infinite.
-/

namespace RecordStream

namespace Binary64

theorem roundQuotient_le (num den : Nat) : roundQuotient num den ≤ num / den + 1 := by
  have hparity : num / den % 2 < 2 := Nat.mod_lt _ (by decide)
  unfold roundQuotient
  dsimp only
  split_ifs <;> omega

theorem gridExponent_le (num den : Nat) : gridExponent num den ≤ max ((Nat.log2 num : Int) - 52) (-1074) := by
  unfold gridExponent
  dsimp only
  split_ifs <;> omega

theorem le_gridExponent (num den : Nat) :
    (Nat.log2 num : Int) - Nat.log2 den - 53 ≤ gridExponent num den := by
  unfold gridExponent
  dsimp only
  split_ifs <;> omega

theorem scale_div_lt {num den : Nat} (hden : den ≠ 0) {q : Int}
    (hq : (Nat.log2 num : Int) - Nat.log2 den - 53 ≤ q) :
    (scale num (-q)).1 / ((scale num (-q)).2 * den) < 2 ^ 54 := by
  have hnum_lt : num < 2 ^ (Nat.log2 num + 1) := Nat.lt_log2_self
  have hden_le : 2 ^ Nat.log2 den ≤ den := Nat.log2_self_le hden
  apply Nat.div_lt_of_lt_mul
  unfold scale
  split_ifs
  · calc num * 2 ^ (-q).toNat
        < 2 ^ (Nat.log2 num + 1) * 2 ^ (-q).toNat :=
          Nat.mul_lt_mul_of_pos_right hnum_lt (Nat.pow_pos (by decide))
      _ = 2 ^ (Nat.log2 num + 1 + (-q).toNat) := (Nat.pow_add ..).symm
      _ ≤ 2 ^ (Nat.log2 den + 54) := Nat.pow_le_pow_right (by decide) (by omega)
      _ = 2 ^ Nat.log2 den * 2 ^ 54 := Nat.pow_add ..
      _ ≤ 1 * den * 2 ^ 54 := by
        rw [Nat.one_mul]
        exact Nat.mul_le_mul_right _ hden_le
  · calc num
        < 2 ^ (Nat.log2 num + 1) := hnum_lt
      _ ≤ 2 ^ ((- -q).toNat + Nat.log2 den + 54) := Nat.pow_le_pow_right (by decide) (by omega)
      _ = 2 ^ (- -q).toNat * 2 ^ Nat.log2 den * 2 ^ 54 := by rw [Nat.pow_add, Nat.pow_add]
      _ ≤ 2 ^ (- -q).toNat * den * 2 ^ 54 :=
        Nat.mul_le_mul_right _ (Nat.mul_le_mul_left _ hden_le)

theorem nearestMagnitude_lt {num den : Nat} (hnum : num < 2 ^ 960) (hden : den ≠ 0) :
    nearestMagnitude num den < infinityBits := by
  by_cases hzero : num = 0
  · rw [nearestMagnitude, if_pos hzero]
    decide
  · have hlog : Nat.log2 num < 960 := (Nat.log2_lt hzero).2 hnum
    have hle := gridExponent_le num den
    have hbits := scale_div_lt hden (le_gridExponent num den)
    have hbound : infinityBits = 2047 * 0x10000000000000 := rfl
    rw [nearestMagnitude, if_neg hzero]
    extract_lets q
    rw [if_neg (by omega)]
    generalize scale num (-gridExponent num den) = scaled at hbits
    obtain ⟨n, d⟩ := scaled
    dsimp only at hbits
    have hround := roundQuotient_le n (d * den)
    apply Nat.lt_of_le_of_lt (Nat.min_le_left _ _)
    omega

theorem isInfinite_ofMagnitude {magnitude : Nat} (negative : Bool) (h : magnitude < infinityBits) :
    (ofMagnitude negative magnitude).isInfinite = false := by
  have hbound : infinityBits < 0x8000000000000000 := by decide
  have hmagnitude : (ofMagnitude negative magnitude).magnitude = magnitude := by
    unfold Binary64.magnitude ofMagnitude
    cases negative
    · simp only [Bool.false_eq_true, if_false, UInt64.toNat_ofNat']
      omega
    · simp only [if_true, UInt64.toNat_ofNat']
      omega
  rw [isInfinite, hmagnitude]
  exact beq_false_of_ne (by omega)

theorem isInfinite_ofQuotient (negative : Bool) {num den : Nat} (hnum : num < 2 ^ 960)
    (hden : den ≠ 0) : (ofQuotient negative num den).isInfinite = false :=
  isInfinite_ofMagnitude negative (nearestMagnitude_lt hnum hden)

end Binary64

namespace Number

theorem exists_divide {n : Int} (hn : n.natAbs < 2 ^ 960) (x : Binary64) :
    ∃ y, divide n (.float x) = .ok y := by
  have hfinite := Binary64.isInfinite_ofQuotient (decide (n < 0)) hn Nat.one_ne_zero
  simp [divide, Binary64.ofInt?, hfinite]

theorem exists_divInt {n d : Int} (hn : n.natAbs < 2 ^ 960) (hd : d ≠ 0) :
    ∃ x, divInt n d = .ok x := by
  have hfinite := Binary64.isInfinite_ofQuotient
    (decide (n < 0) != decide (d < 0) && n != 0) hn (Int.natAbs_ne_zero.2 hd)
  simp [divInt, hfinite]

end Number

end RecordStream
