import Mathlib.Algebra.Group.Nat.Defs
import PlanChain.Retry

set_option autoImplicit false

namespace PlanChain

-- A factor that is cut off at the top does not show in a product that is cut off there.
theorem min_mul_min (a b top : Nat) : min (a * min b top) top = min (a * b) top := by
  rcases Nat.le_total b top with fits | exceeds
  · rw [Nat.min_eq_left fits]
  · rw [Nat.min_eq_right exceeds]
    rcases Nat.eq_zero_or_pos a with rfl | positive
    · rw [Nat.zero_mul, Nat.zero_mul]
    · have cut : top ≤ a * top := Nat.le_mul_of_pos_left top positive
      have whole : a * top ≤ a * b := Nat.mul_le_mul_left a exceeds
      rw [Nat.min_eq_right cut, Nat.min_eq_right (Nat.le_trans cut whole)]

namespace Word

theorem greatest_exact : greatest.toNat = UInt64.size - 1 := rfl

theorem at_most_greatest (word : UInt64) : word.toNat ≤ UInt64.size - 1 := Nat.le_sub_one_of_lt word.toNat_lt_size

theorem saturating_mul_exact (a b : UInt64) :
    (saturatingMul a b).toNat = min (a.toNat * b.toNat) (UInt64.size - 1) := by
  rw [saturatingMul]
  by_cases fits : a.toNat * b.toNat < UInt64.size
  · rw [if_pos fits, UInt64.toNat_mul, Nat.mod_eq_of_lt fits, Nat.min_eq_left (Nat.le_sub_one_of_lt fits)]
  · rw [if_neg fits, greatest_exact, Nat.min_eq_right (Nat.le_trans (Nat.sub_le _ 1) (Nat.not_lt.mp fits))]

theorem saturating_pow2_exact (exponent : UInt32) :
    (saturatingPow2 exponent).toNat = min (2 ^ exponent.toNat) (UInt64.size - 1) := by
  have limit : exponent < 64 ↔ exponent.toNat < 64 := UInt32.lt_iff_toNat_lt
  rw [saturatingPow2]
  by_cases fits : exponent < 64
  · have small : exponent.toNat < 64 := limit.mp fits
    have power : 2 ^ exponent.toNat < UInt64.size := Nat.pow_lt_pow_right (by decide) small
    rw [if_pos fits, UInt64.toNat_shiftLeft, UInt32.toNat_toUInt64, Nat.mod_eq_of_lt small, Nat.shiftLeft_eq,
      UInt64.toNat_one, Nat.one_mul, Nat.mod_eq_of_lt power, Nat.min_eq_left (Nat.le_sub_one_of_lt power)]
  · have large : 64 ≤ exponent.toNat := Nat.not_lt.mp (mt limit.mpr fits)
    have power : UInt64.size ≤ 2 ^ exponent.toNat := Nat.pow_le_pow_right Nat.two_pos large
    rw [if_neg fits, greatest_exact, Nat.min_eq_right (Nat.le_trans (Nat.sub_le _ 1) power)]

end Word

theorem backoff_exact (attempt : UInt32) (base cap : UInt64) :
    (backoff attempt base cap).toNat = min (base.toNat * 2 ^ attempt.toNat) cap.toNat := by
  have wait : (Word.saturatingMul base (Word.saturatingPow2 attempt)).toNat =
      min (base.toNat * 2 ^ attempt.toNat) (UInt64.size - 1) := by
    rw [Word.saturating_mul_exact, Word.saturating_pow2_exact, min_mul_min]
  have smaller (a b : UInt64) : (min a b).toNat = min a.toNat b.toNat := by
    change (if a ≤ b then a else b).toNat = _
    by_cases least : a ≤ b
    · rw [if_pos least, Nat.min_eq_left (UInt64.le_iff_toNat_le.mp least)]
    · have greater : b.toNat ≤ a.toNat := Nat.le_of_not_le (mt UInt64.le_iff_toNat_le.mpr least)
      rw [if_neg least, Nat.min_eq_right greater]
  rw [backoff, smaller, wait, Nat.min_assoc, Nat.min_eq_right (Word.at_most_greatest cap)]

-- A wait is the base, doubled once for each attempt before, up to the cap, as if there were no end to the numbers.
-- So waits never grow shorter from one attempt to the next, and never longer than the cap.
theorem waits_are_exact (attempt : UInt32) (base cap : UInt64) :
    (backoff attempt base cap).toNat = min (base.toNat * 2 ^ attempt.toNat) cap.toNat ∧
      backoff attempt base cap ≤ cap ∧
      ∀ later, attempt ≤ later → backoff attempt base cap ≤ backoff later base cap := by
  refine ⟨backoff_exact attempt base cap, ?_, fun later follows => ?_⟩
  · rw [UInt64.le_iff_toNat_le, backoff_exact]
    exact Nat.min_le_right _ _
  · have powers : 2 ^ attempt.toNat ≤ 2 ^ later.toNat :=
      Nat.pow_le_pow_right Nat.two_pos (UInt32.le_iff_toNat_le.mp follows)
    have products : base.toNat * 2 ^ attempt.toNat ≤ base.toNat * 2 ^ later.toNat := Nat.mul_le_mul_left _ powers
    rw [UInt64.le_iff_toNat_le, backoff_exact, backoff_exact]
    omega

theorem waits_reach_the_cap :
    (63 : UInt32) ≤ 64 ∧ backoff 63 1 Word.greatest = 9223372036854775808 ∧ backoff 64 1 Word.greatest = Word.greatest ∧
      backoff 63 1 Word.greatest ≤ backoff 64 1 Word.greatest :=
  ⟨by decide, by decide, by decide, (waits_are_exact 63 1 Word.greatest).2.2 64 (by decide)⟩

end PlanChain
