import Settings.Proofs.Decimal.Value

/-!
# Which results are too large

A result is none exactly if the number is at least the power of ten behind the largest exponent,
however it is written.  In particular there is a result whenever it is below `10 ^ 20`.
-/

namespace Settings.Decimal

theorem isTooLarge_iff {x : Decimal} : x.isTooLarge = true ↔ 10 ^ (maxExponent + 1) ≤ x.toRat := by
  rcases Nat.eq_zero_or_pos x.coefficient with hzero | hpos
  · have hvalue : x.toRat = 0 := by simp [toRat, hzero]
    have hlimit : (0 : ℚ) < 10 ^ (maxExponent + 1) := by positivity
    simp [isTooLarge, hzero, hvalue, hlimit]
  · obtain ⟨k, hk⟩ : ∃ k, digitCount x.coefficient = k + 1 := ⟨_, rfl⟩
    have hhigh : x.coefficient < 10 ^ (k + 1) := digitCount_le_iff.1 hk.le
    have hlow : 10 ^ k ≤ x.coefficient := by
      cases k with
      | zero => rwa [pow_zero]
      | succ k =>
          have hmore : ¬digitCount x.coefficient ≤ k + 1 := by omega
          rw [digitCount_le_iff] at hmore
          exact Nat.le_of_not_lt hmore
    have hplace : x.isTooLarge = true ↔ maxExponent + 1 ≤ k + x.exponent := by
      rw [isTooLarge, Bool.and_eq_true, decide_eq_true_iff, decide_eq_true_iff, hk]
      constructor
      · rintro ⟨-, hlt⟩
        push_cast at hlt
        omega
      · intro hle
        refine ⟨hpos.ne', ?_⟩
        push_cast
        omega
    rw [hplace]
    constructor
    · intro hle
      exact (zpow_le_zpow_right₀ (by norm_num) hle).trans (pow_le_toRat hlow)
    · intro hle
      have hpow := lt_of_le_of_lt hle (toRat_lt_pow hhigh)
      have hlt := (zpow_lt_zpow_iff_right₀ (by norm_num)).1 hpow
      push_cast at hlt
      omega

theorem ofResult?_of_lt {x : Decimal} (hlt : x.toRat < 10 ^ 20) : ofResult? x = some x := by
  have hlimit : (10 : ℚ) ^ (20 : ℤ) ≤ 10 ^ (maxExponent + 1) :=
    zpow_le_zpow_right₀ (by norm_num) (by decide)
  have hsmall : ¬x.isTooLarge = true := by
    rw [isTooLarge_iff, not_le]
    exact lt_of_lt_of_le hlt hlimit
  exact if_neg hsmall

theorem ofResult?_eq_none_iff {x : Decimal} :
    ofResult? x = none ↔ 10 ^ (maxExponent + 1) ≤ x.toRat := by
  rw [← isTooLarge_iff, ofResult?]
  cases x.isTooLarge <;> simp

theorem eq_of_ofResult? {x y : Decimal} (h : ofResult? x = some y) : x = y := by
  rw [ofResult?] at h
  split at h
  · cases h
  · exact Option.some.inj h

end Settings.Decimal
