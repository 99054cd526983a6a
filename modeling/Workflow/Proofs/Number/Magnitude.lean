import Mathlib.Algebra.Order.Field.Rat
import Mathlib.Algebra.Order.Ring.Nat
import Mathlib.Tactic.NormNum
import Workflow.Number.Binary

/-!
# The size of doubles

Whether a power of a double is rounded to infinity is a question about rational numbers, and a
whole number of few binary digits is never rounded so far.
-/

namespace Workflow

namespace Number

theorem dyadicRatio_pos (m : Nat) (e : Int) : 0 < (dyadicRatio m e).2 := by
  unfold dyadicRatio
  split
  · exact Nat.zero_lt_one
  · exact Nat.two_pow_pos _

theorem dyadicRatio_div (m : Nat) (e : Int) :
    ((dyadicRatio m e).1 : ℚ) / (dyadicRatio m e).2 = m * 2 ^ e := by
  unfold dyadicRatio
  split
  · next whole =>
      obtain ⟨k, rfl⟩ := Int.eq_ofNat_of_zero_le whole
      simp
  · next broken =>
      obtain ⟨k, rfl⟩ : ∃ k : Nat, e = -k := ⟨(-e).toNat, by omega⟩
      simp [div_eq_mul_inv]

/-- A power is rounded to infinity exactly if its value reaches the limit. -/
theorem powerOverflows_iff (m : Nat) (e : Int) (n : Nat) :
    powerOverflows m e n = true ↔ (floatLimit : ℚ) ≤ (m * 2 ^ e) ^ n := by
  have value : ((m : ℚ) * 2 ^ e) ^ n =
      ((dyadicRatio (Nat.pow m n) (e * n)).1 : ℚ) / (dyadicRatio (Nat.pow m n) (e * n)).2 := by
    rw [dyadicRatio_div, mul_pow, zpow_mul, zpow_natCast]
    simp
  have positive : (0 : ℚ) < (dyadicRatio (Nat.pow m n) (e * n)).2 :=
    Nat.cast_pos.mpr (dyadicRatio_pos _ _)
  rw [value, le_div_iff₀ positive]
  simp only [powerOverflows, decide_eq_true_eq]
  exact_mod_cast Iff.rfl

/-- There is a double near a whole number of few digits. -/
theorem nearestFloat?_of_bitLength (negative : Bool) {n : Nat} (short : bitLength n ≤ 1000) :
    ∃ x, nearestFloat? negative n 1 = some x := by
  have one : bitLength 1 = 1 := by decide
  unfold nearestFloat?
  extract_lets signed guess scaled fits exponent mantissa
  by_cases zero : n = 0
  · exact ⟨signed 0.0, if_pos zero⟩
  have low : exponent ≤ 970 := by
    have least : guess ≤ 946 := by simp only [guess, one]; omega
    simp only [exponent]
    split <;> omega
  rw [if_neg zero]
  split
  next m e rounded =>
    -- the mantissa is rounded up to a power of two at most, which moves the exponent by one
    have near : e ≤ 971 := by
      split at rounded <;> cases rounded <;> omega
    exact ⟨_, if_neg (Int.not_lt.mpr near)⟩

theorem bitLength_le {n k : Nat} (h : n < 2 ^ k) : bitLength n ≤ k := by
  unfold bitLength
  split
  · exact Nat.zero_le _
  · next positive => exact (Nat.log2_lt positive).mpr h

end Number

end Workflow
