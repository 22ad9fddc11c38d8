import Settings.Proofs.Decimal.Value

/-!
# How far rounding moves a number

Of a number below `10 ^ 20`, 28 digits go at least eight places behind the point, so that rounding
moves it by at most half a unit of the eighth place.  A number from a power of ten on stays there,
and therefore a rounded result below `10 ^ 20` is known to be near the exact one.
-/

namespace Settings.Decimal

theorem rounded_cases (x : Decimal) :
    x.rounded = x ∨ ∃ k : ℕ, 10 ^ (27 + k) ≤ x.coefficient ∧ x.coefficient < 10 ^ (28 + k) ∧
      x.rounded = ⟨roundDiv x.coefficient (10 ^ k), x.exponent + k⟩ := by
  by_cases hshort : digitCount x.coefficient ≤ precision
  · exact .inl (rounded_of_digitCount_le hshort)
  · right
    obtain ⟨k, hk⟩ : ∃ k, digitCount x.coefficient = 28 + k :=
      ⟨_, (Nat.add_sub_cancel' (Nat.le_of_not_le hshort)).symm⟩
    have hexcess : digitCount x.coefficient - precision = k := by
      rw [hk]
      exact Nat.add_sub_cancel_left 28 k
    have hpos : k ≠ 0 := by
      rintro rfl
      exact hshort (le_of_eq hk)
    have hlow : ¬digitCount x.coefficient ≤ 26 + k + 1 := by omega
    have hhigh : digitCount x.coefficient ≤ 27 + k + 1 := by omega
    rw [digitCount_le_iff] at hlow hhigh
    refine ⟨k, ?_, ?_, ?_⟩
    · rw [show 27 + k = 26 + k + 1 by omega]
      exact Nat.le_of_not_lt hlow
    · rwa [show 28 + k = 27 + k + 1 by omega]
    · simp [rounded, hexcess, hpos]

theorem exponent_lt {x : Decimal} {m : ℕ} {n : ℤ} (hlow : 10 ^ m ≤ x.coefficient)
    (hlt : x.toRat < 10 ^ n) : m + x.exponent < n :=
  (zpow_lt_zpow_iff_right₀ (by norm_num)).1 (lt_of_le_of_lt (pow_le_toRat hlow) hlt)

theorem lt_exponent {x : Decimal} {m : ℕ} {n : ℤ} (hhigh : x.coefficient < 10 ^ m)
    (hle : 10 ^ n ≤ x.toRat) : n < m + x.exponent :=
  (zpow_lt_zpow_iff_right₀ (by norm_num)).1 (lt_of_le_of_lt hle (toRat_lt_pow hhigh))

theorem abs_rounded_sub_le {x : Decimal} (hlt : x.toRat < 10 ^ 20) :
    |x.rounded.toRat - x.toRat| ≤ 10 ^ (-8 : ℤ) / 2 := by
  rcases x.rounded_cases with hsame | ⟨k, hlow, -, hrounded⟩
  · rw [hsame, sub_self, abs_zero]
    positivity
  · -- `k` digits go, and the 28 that stay leave eight places below `10 ^ 20`
    have hexponent : k + x.exponent ≤ -8 := by
      have hplaces := exponent_lt (n := 20) hlow hlt
      push_cast at hplaces
      omega
    have hunit : (10 : ℚ) ^ k * 10 ^ x.exponent ≤ 10 ^ (-8 : ℤ) := by
      rw [← zpow_natCast, ← zpow_add₀ (by norm_num)]
      exact zpow_le_zpow_right₀ (by norm_num) hexponent
    have hpos : 0 < 10 ^ k := by positivity
    obtain ⟨hupper, hlower⟩ := roundDiv_bounds x.coefficient hpos
    have hupper' : 2 * (x.coefficient : ℚ) ≤
        10 ^ k * (2 * (roundDiv x.coefficient (10 ^ k) : ℚ) + 1) := by exact_mod_cast hupper
    have hlower' : 10 ^ k * (2 * (roundDiv x.coefficient (10 ^ k) : ℚ)) ≤
        2 * (x.coefficient : ℚ) + 10 ^ k := by exact_mod_cast hlower
    have hdiff : x.rounded.toRat - x.toRat =
        (10 ^ k * (roundDiv x.coefficient (10 ^ k) : ℚ) - x.coefficient) * 10 ^ x.exponent := by
      rw [hrounded, toRat, toRat, zpow_add₀ (by norm_num), zpow_natCast]
      ring
    have hhalf : |10 ^ k * (roundDiv x.coefficient (10 ^ k) : ℚ) - x.coefficient| ≤ 10 ^ k / 2 := by
      rw [abs_le]
      constructor <;> linarith
    calc
      |x.rounded.toRat - x.toRat|
          = |10 ^ k * (roundDiv x.coefficient (10 ^ k) : ℚ) - x.coefficient| * 10 ^ x.exponent := by
            rw [hdiff, abs_mul, abs_of_nonneg (a := (10 : ℚ) ^ x.exponent) (by positivity)]
      _ ≤ 10 ^ k / 2 * 10 ^ x.exponent := mul_le_mul_of_nonneg_right hhalf (by positivity)
      _ = 10 ^ k * 10 ^ x.exponent / 2 := by ring
      _ ≤ 10 ^ (-8 : ℤ) / 2 := by gcongr

/-- Rounding does not carry a number below a power of ten. -/
theorem le_toRat_rounded {x : Decimal} {n : ℤ} (hle : 10 ^ n ≤ x.toRat) :
    10 ^ n ≤ x.rounded.toRat := by
  rcases x.rounded_cases with hsame | ⟨k, hlow, hhigh, hrounded⟩
  · rwa [hsame]
  · have hexponent : n - 27 ≤ x.exponent + k := by
      have hplaces := lt_exponent hhigh hle
      push_cast at hplaces
      omega
    have hquotient : 10 ^ 27 ≤ roundDiv x.coefficient (10 ^ k) := by
      have hdiv : 10 ^ 27 ≤ x.coefficient / 10 ^ k := by
        rwa [Nat.le_div_iff_mul_le (by positivity), ← pow_add]
      rcases roundDiv_eq_or x.coefficient (10 ^ k) with h | h <;> omega
    have hcast : (10 : ℚ) ^ 27 ≤ roundDiv x.coefficient (10 ^ k) := by exact_mod_cast hquotient
    rw [hrounded, toRat]
    calc
      (10 : ℚ) ^ n = 10 ^ 27 * 10 ^ (n - 27) := by
          rw [← zpow_natCast, ← zpow_add₀ (by norm_num)]
          congr 1
          push_cast
          ring
      _ ≤ 10 ^ 27 * 10 ^ (x.exponent + k) :=
          mul_le_mul_of_nonneg_left (zpow_le_zpow_right₀ (by norm_num) hexponent) (by positivity)
      _ ≤ roundDiv x.coefficient (10 ^ k) * 10 ^ (x.exponent + k) :=
          mul_le_mul_of_nonneg_right hcast (by positivity)

theorem mul_toRat_lt {x y : Decimal} (hlt : (x.mul y).toRat < 10 ^ 20) :
    x.toRat * y.toRat < 10 ^ 20 := by
  by_contra hge
  rw [not_lt, ← toRat_mulExact] at hge
  exact absurd (le_toRat_rounded (n := 20) hge) (not_le_of_gt hlt)

theorem add_toRat_lt {x y : Decimal} (hlt : (x.add y).toRat < 10 ^ 20) :
    x.toRat + y.toRat < 10 ^ 20 := by
  by_contra hge
  rw [not_lt, ← toRat_addExact] at hge
  exact absurd (le_toRat_rounded (n := 20) hge) (not_le_of_gt hlt)

theorem abs_mul_sub_le {x y : Decimal} (hlt : (x.mul y).toRat < 10 ^ 20) :
    |(x.mul y).toRat - x.toRat * y.toRat| ≤ 10 ^ (-8 : ℤ) / 2 := by
  have hexact := mul_toRat_lt hlt
  rw [← toRat_mulExact] at hexact ⊢
  exact abs_rounded_sub_le hexact

theorem abs_add_sub_le {x y : Decimal} (hlt : (x.add y).toRat < 10 ^ 20) :
    |(x.add y).toRat - (x.toRat + y.toRat)| ≤ 10 ^ (-8 : ℤ) / 2 := by
  have hexact := add_toRat_lt hlt
  rw [← toRat_addExact] at hexact ⊢
  exact abs_rounded_sub_le hexact

end Settings.Decimal
