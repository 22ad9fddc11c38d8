import Mathlib.Tactic.GCongr
import Mathlib.Tactic.Linarith
import Settings.Double.Nearest

/-!
# The range of doubles

A whole number has a nearest double unless its magnitude is at least half a unit of the last place
above the largest double.
-/

namespace Settings

theorem roundDiv_of_half {num den q : Nat} (hden : 0 < den) (hq : q % 2 = 1)
    (h : 2 * num = den * (2 * q + 1)) : roundDiv num den = q + 1 := by
  have hdiv : num / den = q := by
    apply Nat.div_eq_of_lt_le
    · linarith
    · linarith
  have hmod : 2 * (num % den) = den := by
    have hsplit := Nat.div_add_mod num den
    rw [hdiv] at hsplit
    linarith
  have hodd : ¬ q % 2 = 0 := by omega
  rw [roundDiv, hdiv, hmod, if_neg (lt_irrefl den), if_neg (lt_irrefl den), if_neg hodd]

theorem lt_roundDiv_iff_of_odd {num den q : Nat} (hden : 0 < den) (hq : q % 2 = 1) :
    q < roundDiv num den ↔ den * (2 * q + 1) ≤ 2 * num := by
  obtain ⟨hbelow, habove⟩ := roundDiv_bounds num hden
  constructor
  · intro hlt
    have hstep : den * (2 * (q + 1)) ≤ den * (2 * roundDiv num den) := by
      gcongr
      exact hlt
    linarith
  · intro hle
    by_contra hnot
    have hround : den * (2 * roundDiv num den + 1) ≤ den * (2 * q + 1) := by
      gcongr
      exact not_lt.1 hnot
    have hhalf := roundDiv_of_half hden hq (by linarith : 2 * num = den * (2 * q + 1))
    omega

theorem roundDiv_mem {num den low : Nat} (hden : 0 < den) (hlow : low * den ≤ num)
    (hhigh : num < 2 * low * den) : low ≤ roundDiv num den ∧ roundDiv num den ≤ 2 * low := by
  obtain ⟨hbelow, habove⟩ := roundDiv_bounds num hden
  constructor
  · by_contra hlt
    have hstep : den * (2 * (roundDiv num den + 1)) ≤ den * (2 * low) := by
      gcongr
      omega
    linarith
  · by_contra hlt
    have hstep : den * (2 * (2 * low + 1)) ≤ den * (2 * roundDiv num den) := by
      gcongr
      omega
    linarith

namespace Double

/-- Half a unit of the last place above the largest double. -/
def limit : Nat := 2 ^ 1024 - 2 ^ 970

theorem pow_le_limit {k : Nat} (hk : k ≤ 1023) : 2 ^ k ≤ limit := by
  calc 2 ^ k ≤ 2 ^ 1023 := by gcongr; decide
    _ ≤ limit := by decide +kernel

theorem limit_le_pow {k : Nat} (hk : 1024 ≤ k) : limit ≤ 2 ^ k := by
  calc limit ≤ 2 ^ 1024 := Nat.sub_le ..
    _ ≤ 2 ^ k := by gcongr; decide

theorem two_mul_limit {unit : Nat} (h : hiddenBit * unit = 2 ^ 1023) :
    2 * limit = unit * (2 * (2 * hiddenBit - 1) + 1) := by
  have hscale : hiddenBit * unit = hiddenBit * 2 ^ 971 := h.trans (by decide +kernel)
  rw [Nat.eq_of_mul_eq_mul_left (by decide) hscale]
  decide +kernel

section

variable {n : Nat}

theorem pow_log2_of_le (h : 52 ≤ n.log2) :
    2 ^ n.log2 = hiddenBit * Nat.pow 2 ((n.log2 : Int) - 52).toNat := by
  obtain ⟨k, hk⟩ := Nat.exists_eq_add_of_le h
  have hexponent : ((n.log2 : Int) - 52).toNat = k := by omega
  rw [hexponent, hk, pow_add]
  rfl

theorem pow_log2_mul_of_lt (h : n.log2 < 52) :
    2 ^ n.log2 * Nat.pow 2 (-((n.log2 : Int) - 52)).toNat = hiddenBit := by
  have hexponent : n.log2 + (-((n.log2 : Int) - 52)).toNat = 52 := by omega
  show 2 ^ n.log2 * 2 ^ _ = hiddenBit
  rw [← pow_add, hexponent]
  rfl

/-- The unit of the last place of a whole number is 52 places below its first bit. -/
theorem unitExponent_one (hn : n ≠ 0) : unitExponent n 1 = n.log2 - 52 := by
  have hlog : 2 ^ n.log2 ≤ n := Nat.log2_self_le hn
  have hguess : (n.log2 : Int) - (1 : Nat).log2 - 52 = n.log2 - 52 := by
    rw [(Nat.log2_eq_iff (by decide)).2 (by decide : 2 ^ 0 ≤ 1 ∧ 1 < 2 ^ (0 + 1))]
    simp
  simp only [unitExponent, hguess]
  rw [if_neg]
  · omega
  · split
    · next hlarge =>
      rw [one_mul, ← pow_log2_of_le (by omega)]
      exact not_lt.2 hlog
    · next hsmall =>
      have hfew : n.log2 < 52 := by omega
      rw [mul_one, ← pow_log2_mul_of_lt hfew]
      exact not_lt.2 (Nat.mul_le_mul_right _ hlog)

/-- The bits of the nearest double of a whole number: an exponent, and a significand that is rounded
to 53 bits. -/
theorem nearestBits_one (hn : n ≠ 0) :
    ∃ num den, 0 < den ∧ hiddenBit * den ≤ num ∧ num < 2 * hiddenBit * den ∧
      nearestBits n 1 = (n.log2 + 1022) * hiddenBit + roundDiv num den ∧
      (52 ≤ n.log2 → num = n ∧ hiddenBit * den = 2 ^ n.log2) := by
  have hlog : 2 ^ n.log2 ≤ n := Nat.log2_self_le hn
  have hnext : n < 2 * 2 ^ n.log2 := by
    rw [← pow_succ']
    exact Nat.lt_log2_self
  have hexponent : ((n.log2 : Int) - 52 + 1074).toNat = n.log2 + 1022 := by omega
  rw [nearestBits, if_neg hn]
  simp only [unitExponent_one hn, hexponent]
  by_cases hlarge : 52 ≤ n.log2
  · have hpow := pow_log2_of_le hlarge
    refine ⟨n, Nat.pow 2 ((n.log2 : Int) - 52).toNat, Nat.pow_pos two_pos, ?_, ?_, ?_,
      fun _ ↦ ⟨rfl, hpow.symm⟩⟩
    · rwa [← hpow]
    · rwa [mul_assoc, ← hpow]
    · rw [if_pos (by omega), one_mul]
  · have hpow := pow_log2_mul_of_lt (not_le.1 hlarge)
    have hscale : 0 < Nat.pow 2 (-((n.log2 : Int) - 52)).toNat := Nat.pow_pos two_pos
    refine ⟨n * Nat.pow 2 (-((n.log2 : Int) - 52)).toNat, 1, one_pos, ?_, ?_, ?_,
      fun h ↦ absurd h hlarge⟩
    · rw [mul_one, ← hpow]
      exact Nat.mul_le_mul_right _ hlog
    · rw [mul_one, ← hpow, ← mul_assoc]
      exact Nat.mul_lt_mul_of_pos_right hnext hscale
    · rw [if_neg (by omega)]

/-- The exponent alone decides except in the last binade of the doubles, where it is decided by
whether the significand is rounded up to the next power of two. -/
theorem overflows_iff (hn : n ≠ 0) : 2047 * hiddenBit ≤ nearestBits n 1 ↔ limit ≤ n := by
  obtain ⟨num, den, hden, hlow, hhigh, hbits, hlarge⟩ := nearestBits_one hn
  obtain ⟨hleast, hmost⟩ := roundDiv_mem hden hlow hhigh
  have hpos : 0 < hiddenBit := by decide
  rw [hbits]
  rcases lt_trichotomy n.log2 1023 with hless | heq | hmore
  · have hexponent : (n.log2 + 1022) * hiddenBit ≤ 2044 * hiddenBit :=
      Nat.mul_le_mul_right _ (by omega)
    apply iff_of_false
    · linarith
    · exact not_le.2 (Nat.lt_log2_self.trans_le (pow_le_limit hless))
  · obtain ⟨rfl, hunit⟩ := hlarge (by omega)
    rw [heq] at hunit
    have hcarry : 2 * hiddenBit - 1 < roundDiv num den ↔ 2 * limit ≤ 2 * num := by
      rw [two_mul_limit hunit]
      exact lt_roundDiv_iff_of_odd hden (by decide)
    rw [heq]
    -- The power of two would be too large for `omega`.
    clear hunit
    omega
  · have hexponent : 2046 * hiddenBit ≤ (n.log2 + 1022) * hiddenBit :=
      Nat.mul_le_mul_right _ (by omega)
    apply iff_of_true
    · linarith
    · exact (limit_le_pow hmore).trans (Nat.log2_self_le hn)

end

theorem ofInt?_eq_none_iff {n : Int} : ofInt? n = none ↔ limit ≤ n.natAbs := by
  have hnone : ofInt? n = none ↔ 2047 * hiddenBit ≤ nearestBits n.natAbs 1 := by
    rw [ofInt?, nearest?]
    split
    · exact iff_of_true rfl ‹_›
    · exact iff_of_false (by simp) ‹_›
  rw [hnone]
  by_cases hn : n.natAbs = 0
  · rw [hn]
    decide +kernel
  · exact overflows_iff hn

end Double

end Settings
