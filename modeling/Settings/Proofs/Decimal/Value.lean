import Mathlib.Algebra.Order.Field.Power
import Mathlib.Algebra.Order.Floor.Ring
import Mathlib.Algebra.Order.Floor.Semifield
import Mathlib.Data.Nat.Log
import Mathlib.Data.Rat.Floor
import Mathlib.Tactic.FieldSimp
import Mathlib.Tactic.Linarith
import Mathlib.Tactic.Positivity
import Mathlib.Tactic.Ring
import Settings.Decimal

/-!
# The values of decimal numbers

A decimal number stands for a rational one.  Exact products and sums are those of the rationals,
and rounding changes nothing as long as the number is small and its last place is not too fine.
-/

namespace Settings

theorem divideOut_eq_log_go (squarings b n : ℕ) :
    divideOut squarings b n = Nat.log.go n b squarings := by
  induction squarings generalizing b with
  | zero => rfl
  | succ squarings ih => rw [divideOut, Nat.log.go, ih]

theorem digitCount_le_iff {n k : ℕ} : digitCount n ≤ k + 1 ↔ n < 10 ^ (k + 1) := by
  rcases Nat.eq_zero_or_pos n with rfl | hpos
  · simp [digitCount, divideOut]
  · have hbound : n < 10 ^ (n.log2 + 1) :=
      lt_of_lt_of_le Nat.lt_log2_self (Nat.pow_le_pow_left (by decide) _)
    obtain ⟨-, hlow, hhigh⟩ := Nat.log.go_spec (b := 10) (by decide) hpos.ne' hbound
    rw [digitCount, divideOut_eq_log_go, Nat.add_le_add_iff_right]
    constructor
    · intro hle
      exact lt_of_lt_of_le hhigh (Nat.pow_le_pow_right (by decide) (Nat.succ_le_succ hle))
    · intro hlt
      exact Nat.lt_succ_iff.1 ((Nat.pow_lt_pow_iff_right (by decide)).1 (lt_of_le_of_lt hlow hlt))

namespace Decimal

/-- The rational number that a decimal number stands for. -/
def toRat (x : Decimal) : ℚ := x.coefficient * 10 ^ x.exponent

theorem toRat_nonneg (x : Decimal) : 0 ≤ x.toRat := by
  unfold toRat
  positivity

@[simp] theorem toRat_zero : zero.toRat = 0 := by simp [toRat, zero]

theorem toRat_mulExact (x y : Decimal) : (x.mulExact y).toRat = x.toRat * y.toRat := by
  simp only [toRat, mulExact, Nat.cast_mul, zpow_add₀ (by norm_num : (10 : ℚ) ≠ 0)]
  ring

theorem coefficientAt_mul (x : Decimal) {e : Int} (h : e ≤ x.exponent) :
    (x.coefficientAt e : ℚ) * 10 ^ e = x.toRat := by
  have hexp : ((x.exponent - e).toNat : Int) = x.exponent - e := Int.toNat_of_nonneg (by omega)
  have hpow : ((10 : ℚ) ^ (x.exponent - e).toNat) * 10 ^ e = 10 ^ x.exponent := by
    rw [← zpow_natCast, hexp, ← zpow_add₀ (by norm_num), sub_add_cancel]
  simp only [coefficientAt, toRat, Nat.pow_eq, Nat.cast_mul, Nat.cast_pow, Nat.cast_ofNat]
  rw [mul_assoc, hpow]

theorem toRat_addExact (x y : Decimal) : (x.addExact y).toRat = x.toRat + y.toRat := by
  rw [← coefficientAt_mul x (min_le_left x.exponent y.exponent),
    ← coefficientAt_mul y (min_le_right x.exponent y.exponent), ← add_mul, ← Nat.cast_add]
  rfl

theorem pow_le_toRat {x : Decimal} {m : ℕ} (h : 10 ^ m ≤ x.coefficient) :
    (10 : ℚ) ^ (m + x.exponent) ≤ x.toRat := by
  have hcast : (10 : ℚ) ^ m ≤ x.coefficient := by exact_mod_cast h
  rw [zpow_add₀ (by norm_num), zpow_natCast, toRat]
  exact mul_le_mul_of_nonneg_right hcast (by positivity)

theorem toRat_lt_pow {x : Decimal} {m : ℕ} (h : x.coefficient < 10 ^ m) :
    x.toRat < (10 : ℚ) ^ (m + x.exponent) := by
  have hcast : (x.coefficient : ℚ) < 10 ^ m := by exact_mod_cast h
  rw [zpow_add₀ (by norm_num), zpow_natCast, toRat]
  exact mul_lt_mul_of_pos_right hcast (by positivity)

theorem coefficient_lt {x : Decimal} {k m : Nat} (hexp : -(k : Int) ≤ x.exponent)
    (hlt : x.toRat < 10 ^ m) : x.coefficient < 10 ^ (m + k) := by
  have hscale : (10 : ℚ) ^ (-(k : Int)) ≤ 10 ^ x.exponent := zpow_le_zpow_right₀ (by norm_num) hexp
  have hle : (x.coefficient : ℚ) * 10 ^ (-(k : Int)) < 10 ^ m :=
    lt_of_le_of_lt (mul_le_mul_of_nonneg_left hscale (Nat.cast_nonneg _)) hlt
  rw [zpow_neg, zpow_natCast, ← div_eq_mul_inv, div_lt_iff₀ (by positivity), ← pow_add] at hle
  exact_mod_cast hle

/-- Below `10 ^ 20`, numbers with at most eight places behind the point are not rounded. -/
theorem rounded_eq_self {x : Decimal} (hexp : -8 ≤ x.exponent) (hlt : x.toRat < 10 ^ 20) :
    x.rounded = x :=
  rounded_of_digitCount_le (digitCount_le_iff.2 (coefficient_lt (k := 8) hexp hlt))

theorem mul_eq_mulExact {x y : Decimal} (hexp : -8 ≤ x.exponent + y.exponent)
    (hlt : x.toRat * y.toRat < 10 ^ 20) : x.mul y = x.mulExact y :=
  rounded_eq_self hexp (by rwa [toRat_mulExact])

theorem add_eq_addExact {x y : Decimal} (hx : -8 ≤ x.exponent) (hy : -8 ≤ y.exponent)
    (hlt : x.toRat + y.toRat < 10 ^ 20) : x.add y = x.addExact y :=
  rounded_eq_self (le_min hx hy) (by rwa [toRat_addExact])

theorem floor_eq (x : Decimal) : x.floor = ⌊x.toRat⌋₊ := by
  unfold floor
  split
  · next hexp =>
      have hvalue : x.toRat = ((x.coefficient * 10 ^ x.exponent.toNat : ℕ) : ℚ) := by
        rw [toRat, Nat.cast_mul, Nat.cast_pow, ← zpow_natCast, Int.toNat_of_nonneg hexp]
        rfl
      rw [hvalue, Nat.floor_natCast, Nat.pow_eq]
  · next hexp =>
      have hneg : ((-x.exponent).toNat : Int) = -x.exponent := Int.toNat_of_nonneg (by omega)
      have hvalue : x.toRat = x.coefficient / ((10 ^ (-x.exponent).toNat : ℕ) : ℚ) := by
        rw [toRat, Nat.cast_pow, ← zpow_natCast, hneg, Nat.cast_ofNat, zpow_neg, div_inv_eq_mul]
      rw [hvalue, Nat.floor_div_eq_div, Nat.pow_eq]

theorem floor_eq_of_toRat_eq {x : Decimal} {n : Nat} (h : x.toRat = n) : x.floor = n := by
  rw [floor_eq, h, Nat.floor_natCast]

end Decimal

end Settings
