import Mathlib.Algebra.Order.Field.Power
import Mathlib.Tactic.Linarith
import Mathlib.Tactic.NormNum
import Mathlib.Tactic.Positivity
import Settings.Backoff.Wait

/-!
# Exact intervals

Intervals in exact arithmetic, where only powers beyond the largest double overflow.  An interval is
the smaller one of the grown first interval and the longest one, except that a first interval of
zero or less jumps to the longest one as soon as the power overflows.
-/

namespace Settings

namespace Double

/-- The rational number that a finite double stands for. -/
def toRat? (x : Float) : Option ℚ :=
  match exact x with
  | .finite negative significand exponent =>
      some ((if negative then -1 else 1) * significand * 2 ^ exponent)
  | _ => none

/-- The largest finite double. -/
def largest : ℚ := (2 ^ 53 - 1) * 2 ^ 971

theorem lt_largest_of_inRange {n : Int} (h : InRange n) : |(n : ℚ)| < largest := by
  have hbound : |n| ≤ maxMicros := by
    rw [abs_le]
    obtain ⟨hlow, hhigh⟩ := h
    have hmin : -maxMicros ≤ minMicros := by decide
    omega
  have hlarge : (maxMicros : ℚ) < largest :=
    calc (maxMicros : ℚ) < (2 ^ 53 - 1) * 2 ^ 20 := by norm_num [maxMicros, maxDays, microsPerDay]
      _ ≤ largest := by
        unfold largest
        gcongr <;> norm_num
  calc |(n : ℚ)| = ((|n| : Int) : ℚ) := (Int.cast_abs).symm
    _ ≤ (maxMicros : ℚ) := by exact_mod_cast hbound
    _ < largest := hlarge

end Double

namespace Backoff

/-- Exact arithmetic, but for powers beyond the largest double. -/
instance : Arithmetic ℚ where
  ofMillionths n := n / 10 ^ 6
  ofDouble x := (Double.toRat? x).getD 0
  power? base exponent :=
    if |base ^ exponent.toNat| ≤ Double.largest then some (base ^ exponent.toNat) else none

theorem seconds_eq (d : Duration) : seconds ℚ d = d.micros / 10 ^ 6 := rfl

/-- The number of attempts before an attempt. -/
def earlier (attempt : Int) : Nat := (max (attempt - 1) 0).toNat

theorem earlier_mono {n n' : Int} (h : n ≤ n') : earlier n ≤ earlier n' := by
  unfold earlier
  omega

namespace Policy

section

variable {p : Policy} {m : ℚ}

theorem multiplier_waitIn (hm : Double.toRat? p.multiplier = some m) :
    (p.waitIn ℚ).multiplier = m := by
  show (Double.toRat? p.multiplier).getD 0 = m
  rw [hm, Option.getD_some]

/-- Without an overflow the interval is the grown one, cut off at the longest. -/
theorem interval_of_le (hm : Double.toRat? p.multiplier = some m) (hpos : 0 < m) {n : Int}
    (h : m ^ earlier n ≤ Double.largest) :
    (p.waitIn ℚ).interval n =
      min (seconds ℚ p.initialInterval * m ^ earlier n) (seconds ℚ p.maxInterval) := by
  have hpower : Arithmetic.power? m (max (n - 1) 0) = some (m ^ earlier n) := by
    apply if_pos
    rwa [abs_of_pos (pow_pos hpos _)]
  rw [Wait.interval, multiplier_waitIn hm, hpower]
  show (if seconds ℚ p.maxInterval < seconds ℚ p.initialInterval * m ^ earlier n then _ else _) = _
  split
  · next hlt => exact (min_eq_right hlt.le).symm
  · next hle => exact (min_eq_left (not_lt.1 hle)).symm

theorem interval_of_lt (hm : Double.toRat? p.multiplier = some m) (hpos : 0 < m) {n : Int}
    (h : Double.largest < m ^ earlier n) :
    (p.waitIn ℚ).interval n = seconds ℚ p.maxInterval := by
  have hpower : Arithmetic.power? m (max (n - 1) 0) = none := by
    apply if_neg
    rw [abs_of_pos (pow_pos hpos _)]
    exact not_le.2 h
  rw [Wait.interval, multiplier_waitIn hm, hpower]
  rfl

/-- An interval that grows from more than nothing is beyond the longest one when the power
overflows. -/
theorem maxInterval_lt_of_lt (hpos : 0 < p.initialInterval.micros) {power : ℚ}
    (h : Double.largest < power) :
    seconds ℚ p.maxInterval < seconds ℚ p.initialInterval * power := by
  have hone : (1 : ℚ) ≤ p.initialInterval.micros := by exact_mod_cast hpos
  have hlongest : (p.maxInterval.micros : ℚ) < Double.largest :=
    (le_abs_self _).trans_lt (Double.lt_largest_of_inRange p.maxInterval.inRange)
  have hpower : 0 ≤ power := ((abs_nonneg _).trans_lt
    ((Double.lt_largest_of_inRange p.maxInterval.inRange).trans h)).le
  rw [seconds_eq, seconds_eq, div_mul_eq_mul_div]
  gcongr
  calc (p.maxInterval.micros : ℚ) < Double.largest := hlongest
    _ < 1 * power := by rwa [one_mul]
    _ ≤ p.initialInterval.micros * power := by gcongr

/-- An interval that grows from less than nothing is below the longest one when the power
overflows. -/
theorem lt_maxInterval_of_lt (hneg : p.initialInterval.micros < 0) {power : ℚ}
    (h : Double.largest < power) :
    seconds ℚ p.initialInterval * power < seconds ℚ p.maxInterval := by
  have hone : (p.initialInterval.micros : ℚ) ≤ -1 := by exact_mod_cast Int.le_sub_one_of_lt hneg
  have hlongest : -Double.largest < (p.maxInterval.micros : ℚ) :=
    neg_lt_of_abs_lt (Double.lt_largest_of_inRange p.maxInterval.inRange)
  have hpower : 0 < power := (abs_nonneg _).trans_lt
    ((Double.lt_largest_of_inRange p.maxInterval.inRange).trans h)
  rw [seconds_eq, seconds_eq, div_mul_eq_mul_div]
  gcongr
  calc p.initialInterval.micros * power ≤ -1 * power := by gcongr
    _ < -Double.largest := by linarith
    _ < (p.maxInterval.micros : ℚ) := hlongest

theorem interval_le_maxInterval (hm : Double.toRat? p.multiplier = some m) (hpos : 0 < m)
    (n : Int) : (p.waitIn ℚ).interval n ≤ seconds ℚ p.maxInterval := by
  rcases le_or_gt (m ^ earlier n) Double.largest with hle | hlt
  · rw [interval_of_le hm hpos hle]
    exact min_le_right _ _
  · exact (interval_of_lt hm hpos hlt).le

/-- The formula fails only for powers that overflow, and then exactly when the first interval is
negative, or is zero and the longest one is not. -/
theorem interval_eq_min_iff (hm : Double.toRat? p.multiplier = some m) (hpos : 0 < m) (n : Int) :
    (p.waitIn ℚ).interval n =
        min (seconds ℚ p.initialInterval * m ^ earlier n) (seconds ℚ p.maxInterval) ↔
      m ^ earlier n ≤ Double.largest ∨ 0 < p.initialInterval.micros ∨
        p.initialInterval.micros = 0 ∧ p.maxInterval.micros ≤ 0 := by
  rcases le_or_gt (m ^ earlier n) Double.largest with hle | hlt
  · exact iff_of_true (interval_of_le hm hpos hle) (.inl hle)
  · rw [interval_of_lt hm hpos hlt]
    rcases lt_trichotomy p.initialInterval.micros 0 with hneg | hzero | hmore
    · have hbelow := lt_maxInterval_of_lt hneg hlt
      rw [min_eq_left hbelow.le]
      refine iff_of_false hbelow.ne' ?_
      rintro (hle | hmore | ⟨hzero, -⟩)
      · exact absurd hle (not_le.2 hlt)
      · omega
      · omega
    · have hstart : seconds ℚ p.initialInterval = 0 := by simp [seconds_eq, hzero]
      have hsign : seconds ℚ p.maxInterval ≤ 0 ↔ p.maxInterval.micros ≤ 0 := by
        rw [seconds_eq, div_le_iff₀ (by positivity), zero_mul, Int.cast_nonpos]
      rw [hstart, zero_mul, eq_comm, min_eq_right_iff, hsign, hzero]
      simp [not_le.2 hlt]
    · have habove := maxInterval_lt_of_lt hmore hlt
      exact iff_of_true (min_eq_right habove.le).symm (.inr (.inl hmore))

theorem interval_mono (hm : Double.toRat? p.multiplier = some m) (hone : 1 ≤ m)
    (hstart : 0 ≤ p.initialInterval.micros) {n n' : Int} (hn : n ≤ n') :
    (p.waitIn ℚ).interval n ≤ (p.waitIn ℚ).interval n' := by
  have hpos : 0 < m := zero_lt_one.trans_le hone
  have hpower : m ^ earlier n ≤ m ^ earlier n' := pow_le_pow_right₀ hone (earlier_mono hn)
  rcases le_or_gt (m ^ earlier n') Double.largest with hle | hlt
  · have hinitial : 0 ≤ seconds ℚ p.initialInterval := by
      rw [seconds_eq]
      positivity
    rw [interval_of_le hm hpos hle, interval_of_le hm hpos (hpower.trans hle)]
    gcongr
  · rw [interval_of_lt hm hpos hlt]
    exact interval_le_maxInterval hm hpos n

end

/-- Intervals are the grown first interval, cut off at the longest, unless the power overflows and
the first interval is not positive; an overflow always gives the longest interval.  No interval is
beyond the longest, and none is below an earlier one if the first is not negative and intervals do
not shrink.  A first interval of zero leaves all intervals at zero up to an overflow. -/
theorem interval_by_formula {p : Policy} {m : ℚ} (hm : Double.toRat? p.multiplier = some m)
    (hpos : 0 < m) :
    (∀ n, (p.waitIn ℚ).interval n =
          min (seconds ℚ p.initialInterval * m ^ earlier n) (seconds ℚ p.maxInterval) ↔
        m ^ earlier n ≤ Double.largest ∨ 0 < p.initialInterval.micros ∨
          p.initialInterval.micros = 0 ∧ p.maxInterval.micros ≤ 0) ∧
      (∀ n, Double.largest < m ^ earlier n →
        (p.waitIn ℚ).interval n = seconds ℚ p.maxInterval) ∧
      (∀ n, (p.waitIn ℚ).interval n ≤ seconds ℚ p.maxInterval) ∧
      (0 ≤ p.initialInterval.micros → 1 ≤ m →
        ∀ n n', n ≤ n' → (p.waitIn ℚ).interval n ≤ (p.waitIn ℚ).interval n') ∧
      (p.initialInterval.micros = 0 → 0 ≤ p.maxInterval.micros →
        ∀ n, m ^ earlier n ≤ Double.largest → (p.waitIn ℚ).interval n = 0) := by
  refine ⟨interval_eq_min_iff hm hpos, fun n ↦ interval_of_lt hm hpos,
    interval_le_maxInterval hm hpos, ?_, ?_⟩
  · intro hstart hone n n' hn
    exact interval_mono hm hone hstart hn
  · intro hzero hlongest n hle
    have hmax : 0 ≤ seconds ℚ p.maxInterval := by
      rw [seconds_eq]
      positivity
    have hstart : seconds ℚ p.initialInterval = 0 := by simp [seconds_eq, hzero]
    rw [interval_of_le hm hpos hle, hstart, zero_mul]
    exact min_eq_left hmax

theorem toRat?_standard : Double.toRat? standard.multiplier = some (3 / 2) := by
  have hexact : Double.exact standard.multiplier = .finite false 0x18000000000000 (-52) := by
    decide
  rw [Double.toRat?, hexact]
  norm_num

/-- The standard policy has its intervals by the formula, also where the power overflows. -/
theorem interval_by_formula_standard :
    Double.toRat? standard.multiplier = some (3 / 2) ∧ (0 : ℚ) < 3 / 2 ∧
      (standard.waitIn ℚ).interval 3 = 9 / 8 ∧
      (standard.waitIn ℚ).interval 5000 =
        min (seconds ℚ standard.initialInterval * (3 / 2) ^ earlier 5000) 60 ∧
      (standard.waitIn ℚ).interval 3 ≤ (standard.waitIn ℚ).interval 5000 := by
  have hpos : (0 : ℚ) < 3 / 2 := by norm_num
  obtain ⟨hformula, -, -, hmono, -⟩ := interval_by_formula toRat?_standard hpos
  have hmax : seconds ℚ standard.maxInterval = 60 := by norm_num [seconds_eq, standard]
  have hinitial : seconds ℚ standard.initialInterval = 1 / 2 := by norm_num [seconds_eq, standard]
  have hgrows (n : Int) := (hformula n).2 (.inr (.inl (by decide)))
  refine ⟨toRat?_standard, hpos, ?_, ?_, hmono (by decide) (by norm_num) _ _ (by decide)⟩
  · have hearlier : earlier 3 = 2 := rfl
    rw [hgrows, hmax, hinitial, hearlier]
    norm_num
  · rw [hgrows, hmax]

/-- Retries without a pause at first, with intervals that double up to a minute. -/
def immediate : Policy :=
  { standard with initialInterval := .zero, multiplier := Float.ofBits 0x4000000000000000 }

/-- An interval that is zero by the formula jumps to the longest one when the power overflows. -/
theorem interval_off_formula_immediate :
    Double.toRat? immediate.multiplier = some 2 ∧
      min (seconds ℚ immediate.initialInterval * 2 ^ earlier 1025)
        (seconds ℚ immediate.maxInterval) = 0 ∧
      (immediate.waitIn ℚ).interval 1025 = 60 := by
  have hm : Double.toRat? immediate.multiplier = some 2 := by
    have hexact : Double.exact immediate.multiplier = .finite false 0x10000000000000 (-51) := by
      decide
    rw [Double.toRat?, hexact]
    norm_num
  have hoverflow : Double.largest < 2 ^ earlier 1025 := by
    show ((2 : ℚ) ^ 53 - 1) * 2 ^ 971 < 2 ^ (53 + 971)
    rw [pow_add]
    gcongr
    norm_num
  have hmax : seconds ℚ immediate.maxInterval = 60 := by norm_num [seconds_eq, immediate, standard]
  have hstart : seconds ℚ immediate.initialInterval = 0 := by
    norm_num [seconds_eq, immediate, Duration.zero]
  refine ⟨hm, ?_, ?_⟩
  · rw [hstart, hmax, zero_mul]
    norm_num
  · rw [interval_of_lt hm two_pos hoverflow, hmax]

end Policy

end Backoff

end Settings
