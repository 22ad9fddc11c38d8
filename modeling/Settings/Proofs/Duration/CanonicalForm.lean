import Settings.Proofs.Duration.Numeral
import Settings.Proofs.Duration.RoundTrip

/-!
# The canonical literals

Which texts are canonical is said without the printer: by the units that a literal has, the bounds
of the number before each of them and the spelling of these numbers.  The canonical texts are then
exactly what the printer writes, and hence what comes back when it is read and printed again.
-/

namespace Settings.Duration

/-- The canonical texts of times that are not zero, without a sign, and the microseconds. -/
inductive IsMagnitude : List Char → ℚ → Prop where
  | micros {cs : List Char} (h : IsNumeral cs) (hlow : 1 ≤ numeralValue cs)
      (hhigh : numeralValue cs ≤ 999) : IsMagnitude (cs ++ ['u', 's']) (numeralValue cs)
  | millis {cs : List Char} {x : ℚ} (h : IsAmount 3 cs x) (hlow : 1 ≤ x) (hhigh : x < 1000) :
      IsMagnitude (cs ++ ['m', 's']) (x * 1000)
  | seconds {cs : List Char} {x : ℚ} (h : IsAmount 6 cs x) (hlow : 1 ≤ x) (hhigh : x < 60) :
      IsMagnitude (cs ++ ['s']) (x * 1000000)
  | minutes {ms cs : List Char} {x : ℚ} (hm : IsNumeral ms) (hlow : 1 ≤ numeralValue ms)
      (hhigh : numeralValue ms ≤ 59) (h : IsAmount 6 cs x) (hseconds : x < 60) :
      IsMagnitude (ms ++ 'm' :: (cs ++ ['s'])) (numeralValue ms * 60000000 + x * 1000000)
  | hours {hs ms cs : List Char} {x : ℚ} (hh : IsNumeral hs) (hlow : 1 ≤ numeralValue hs)
      (hm : IsNumeral ms) (hminutes : numeralValue ms ≤ 59) (h : IsAmount 6 cs x)
      (hseconds : x < 60) :
      IsMagnitude (hs ++ 'h' :: (ms ++ 'm' :: (cs ++ ['s'])))
        (numeralValue hs * 3600000000 + numeralValue ms * 60000000 + x * 1000000)

/-- The canonical texts of the times in range. -/
inductive IsCanonical : List Char → Prop where
  | zero : IsCanonical ['0', 's']
  | nonzero (negative : Bool) {cs : List Char} {q : ℚ} (h : IsMagnitude cs q)
      (hlow : minMicros ≤ if negative then -q else q)
      (hhigh : (if negative then -q else q) ≤ maxMicros) :
      IsCanonical ((if negative then ['-'] else []) ++ cs)

/-! ## What the printer writes for each size -/

theorem magnitudeText_of_lt_millisecond {n : ℕ} (h : n < 1000) :
    magnitudeText n = Nat.toDigits 10 n ++ ['u', 's'] :=
  if_pos h

theorem magnitudeText_of_lt_second {n : ℕ} (hlow : 1000 ≤ n) (hhigh : n < 1000000) :
    magnitudeText n = fixedText n 3 ++ ['m', 's'] := by
  rw [magnitudeText, if_neg (by omega), if_pos hhigh]

theorem magnitudeText_of_lt_minute {n : ℕ} (hlow : 1000000 ≤ n) (hhigh : n < 60000000) :
    magnitudeText n = fixedText n 6 ++ ['s'] := by
  have hhours : n / 3600000000 = 0 := by omega
  have hminutes : n % 3600000000 / 60000000 = 0 := by omega
  have hseconds : n % 60000000 = n := by omega
  simp [magnitudeText, hhours, hminutes, hseconds, show ¬n < 1000 by omega,
    show ¬n < 1000000 by omega]

theorem magnitudeText_of_lt_hour {m r : ℕ} (hlow : 1 ≤ m) (hhigh : m ≤ 59) (hr : r < 60000000) :
    magnitudeText (m * 60000000 + r) =
      Nat.toDigits 10 m ++ 'm' :: (fixedText r 6 ++ ['s']) := by
  have hhours : (m * 60000000 + r) / 3600000000 = 0 := by omega
  have hminutes : (m * 60000000 + r) % 3600000000 / 60000000 = m := by omega
  have hseconds : (m * 60000000 + r) % 60000000 = r := by omega
  simp [magnitudeText, hhours, hminutes, hseconds, show m ≠ 0 by omega,
    show ¬m * 60000000 + r < 1000 by omega, show ¬m * 60000000 + r < 1000000 by omega]

theorem magnitudeText_of_hours {k m r : ℕ} (hlow : 1 ≤ k) (hm : m ≤ 59) (hr : r < 60000000) :
    magnitudeText (k * 3600000000 + m * 60000000 + r) =
      Nat.toDigits 10 k ++ 'h' :: (Nat.toDigits 10 m ++ 'm' :: (fixedText r 6 ++ ['s'])) := by
  have hhours : (k * 3600000000 + m * 60000000 + r) / 3600000000 = k := by omega
  have hminutes : (k * 3600000000 + m * 60000000 + r) % 3600000000 / 60000000 = m := by omega
  have hseconds : (k * 3600000000 + m * 60000000 + r) % 60000000 = r := by omega
  simp [magnitudeText, hhours, hminutes, hseconds, show k ≠ 0 by omega,
    show ¬k * 3600000000 + m * 60000000 + r < 1000 by omega,
    show ¬k * 3600000000 + m * 60000000 + r < 1000000 by omega]

/-! ## Canonical texts are what the printer writes -/

theorem natCast_le_div_iff {k n places : ℕ} :
    (k : ℚ) ≤ n / 10 ^ places ↔ k * 10 ^ places ≤ n := by
  rw [le_div_iff₀ (by positivity)]
  exact_mod_cast Iff.rfl

theorem div_lt_natCast_iff {k n places : ℕ} :
    (n : ℚ) / 10 ^ places < k ↔ n < k * 10 ^ places := by
  rw [div_lt_iff₀ (by positivity)]
  exact_mod_cast Iff.rfl

theorem isMagnitude_of_lt_minute {n : ℕ} (hn : 0 < n) (hlt : n < 60000000) :
    IsMagnitude (magnitudeText n) n := by
  by_cases hmillis : n < 1000
  · have h := IsMagnitude.micros (isNumeral_toDigits n) (by rwa [numeralValue_toDigits])
      (by rw [numeralValue_toDigits]; omega)
    rwa [numeralValue_toDigits, ← magnitudeText_of_lt_millisecond hmillis] at h
  · by_cases hsecond : n < 1000000
    · have hlow : ((1 : ℕ) : ℚ) ≤ n / 10 ^ 3 := natCast_le_div_iff.2 (by omega)
      have hhigh : (n : ℚ) / 10 ^ 3 < (1000 : ℕ) := div_lt_natCast_iff.2 (by omega)
      have h := IsMagnitude.millis (isAmount_fixedText n (by decide)) (by exact_mod_cast hlow)
        (by exact_mod_cast hhigh)
      have hvalue : (n : ℚ) / 10 ^ 3 * 1000 = n := by norm_num
      rwa [hvalue, ← magnitudeText_of_lt_second (by omega) hsecond] at h
    · have hlow : ((1 : ℕ) : ℚ) ≤ n / 10 ^ 6 := natCast_le_div_iff.2 (by omega)
      have hhigh : (n : ℚ) / 10 ^ 6 < (60 : ℕ) := div_lt_natCast_iff.2 (by omega)
      have h := IsMagnitude.seconds (isAmount_fixedText n (by decide)) (by exact_mod_cast hlow)
        (by exact_mod_cast hhigh)
      have hvalue : (n : ℚ) / 10 ^ 6 * 1000000 = n := by norm_num
      rwa [hvalue, ← magnitudeText_of_lt_minute (by omega) hlt] at h

theorem isMagnitude_of_minute_le {n : ℕ} (hle : 60000000 ≤ n) :
    IsMagnitude (magnitudeText n) n := by
  have hseconds : n % 60000000 < 60 * 10 ^ 6 := Nat.mod_lt n (by decide)
  have hlt : ((n % 60000000 : ℕ) : ℚ) / 10 ^ 6 < (60 : ℕ) := div_lt_natCast_iff.2 hseconds
  have hamount : IsAmount 6 (fixedText (n % 60000000) 6) ((n % 60000000 : ℕ) / 10 ^ 6) :=
    isAmount_fixedText (n % 60000000) (by decide)
  by_cases hhour : n < 3600000000
  · have hn : n = n / 60000000 * 60000000 + n % 60000000 := (Nat.div_add_mod' n _).symm
    have hlow : 1 ≤ n / 60000000 := by omega
    have hhigh : n / 60000000 ≤ 59 := by omega
    have h := IsMagnitude.minutes (isNumeral_toDigits (n / 60000000))
      (by rwa [numeralValue_toDigits]) (by rwa [numeralValue_toDigits]) hamount
      (by exact_mod_cast hlt)
    have hvalue : ((n / 60000000 : ℕ) : ℚ) * 60000000 +
        (n % 60000000 : ℕ) / 10 ^ 6 * 1000000 = n := by
      conv_rhs => rw [hn]
      push_cast
      norm_num
    rwa [numeralValue_toDigits, hvalue, ← magnitudeText_of_lt_hour hlow hhigh hseconds, ← hn] at h
  · have hn : n = n / 3600000000 * 3600000000 + n % 3600000000 / 60000000 * 60000000 +
        n % 60000000 := by omega
    have hlow : 1 ≤ n / 3600000000 := by omega
    have hminutes : n % 3600000000 / 60000000 ≤ 59 := by omega
    have h := IsMagnitude.hours (isNumeral_toDigits (n / 3600000000))
      (by rwa [numeralValue_toDigits]) (isNumeral_toDigits (n % 3600000000 / 60000000))
      (by rwa [numeralValue_toDigits]) hamount (by exact_mod_cast hlt)
    have hvalue : ((n / 3600000000 : ℕ) : ℚ) * 3600000000 +
        (n % 3600000000 / 60000000 : ℕ) * 60000000 +
          (n % 60000000 : ℕ) / 10 ^ 6 * 1000000 = n := by
      conv_rhs => rw [hn]
      push_cast
      norm_num
    rwa [numeralValue_toDigits, numeralValue_toDigits, hvalue,
      ← magnitudeText_of_hours hlow hminutes hseconds, ← hn] at h

theorem isMagnitude_magnitudeText {n : ℕ} (hn : 0 < n) : IsMagnitude (magnitudeText n) n := by
  by_cases hlt : n < 60000000
  · exact isMagnitude_of_lt_minute hn hlt
  · exact isMagnitude_of_minute_le (Nat.le_of_not_lt hlt)

theorem IsMagnitude.exists_magnitudeText {cs : List Char} {q : ℚ} (h : IsMagnitude cs q) :
    ∃ n : ℕ, 0 < n ∧ q = n ∧ cs = magnitudeText n := by
  cases h with
  | @micros cs h hlow hhigh =>
      refine ⟨numeralValue cs, hlow, rfl, ?_⟩
      rw [magnitudeText_of_lt_millisecond (by omega), h.toDigits_numeralValue]
  | millis h hlow hhigh =>
      obtain ⟨n, rfl, rfl⟩ := h.exists_fixedText
      have hlow' : 1 * 10 ^ 3 ≤ n := natCast_le_div_iff.1 (by exact_mod_cast hlow)
      have hhigh' : n < 1000 * 10 ^ 3 := div_lt_natCast_iff.1 (by exact_mod_cast hhigh)
      refine ⟨n, by omega, by norm_num, ?_⟩
      rw [magnitudeText_of_lt_second (by omega) (by omega)]
  | seconds h hlow hhigh =>
      obtain ⟨n, rfl, rfl⟩ := h.exists_fixedText
      have hlow' : 1 * 10 ^ 6 ≤ n := natCast_le_div_iff.1 (by exact_mod_cast hlow)
      have hhigh' : n < 60 * 10 ^ 6 := div_lt_natCast_iff.1 (by exact_mod_cast hhigh)
      refine ⟨n, by omega, by norm_num, ?_⟩
      rw [magnitudeText_of_lt_minute (by omega) (by omega)]
  | @minutes ms cs x hm hlow hhigh h hseconds =>
      obtain ⟨r, rfl, rfl⟩ := h.exists_fixedText
      have hr : r < 60 * 10 ^ 6 := div_lt_natCast_iff.1 (by exact_mod_cast hseconds)
      refine ⟨numeralValue ms * 60000000 + r, by omega, by push_cast; norm_num, ?_⟩
      rw [magnitudeText_of_lt_hour hlow hhigh (by omega), hm.toDigits_numeralValue]
  | @hours hs ms cs x hh hlow hm hminutes h hseconds =>
      obtain ⟨r, rfl, rfl⟩ := h.exists_fixedText
      have hr : r < 60 * 10 ^ 6 := div_lt_natCast_iff.1 (by exact_mod_cast hseconds)
      refine ⟨numeralValue hs * 3600000000 + numeralValue ms * 60000000 + r, by omega,
        by push_cast; norm_num, ?_⟩
      rw [magnitudeText_of_hours hlow hminutes (by omega), hh.toDigits_numeralValue,
        hm.toDigits_numeralValue]

theorem canonical_of_pos {d : Duration} {n : ℕ} (hn : 0 < n) (hd : d.micros = n) :
    d.canonical = String.ofList (magnitudeText n) := by
  have hnonneg : ¬(n : ℤ) < 0 := by omega
  rw [canonical, hd, if_neg (by omega), if_neg hnonneg]
  rfl

theorem canonical_of_neg {d : Duration} {n : ℕ} (hn : 0 < n) (hd : d.micros = -n) :
    d.canonical = String.ofList ('-' :: magnitudeText n) := by
  have hneg : (-n : ℤ) < 0 := by omega
  rw [canonical, hd, if_neg (by omega), if_pos hneg, Int.natAbs_neg]
  rfl

theorem isCanonical_canonical (d : Duration) : IsCanonical d.canonical.toList := by
  have hrange := d.inRange
  by_cases hzero : d.micros = 0
  · rw [canonical, if_pos hzero]
    exact .zero
  · obtain ⟨n, hd | hd⟩ := Int.eq_nat_or_neg d.micros
    · have hn : 0 < n := by omega
      rw [hd] at hrange
      rw [canonical_of_pos hn hd, String.toList_ofList]
      exact .nonzero false (isMagnitude_magnitudeText hn) (by exact_mod_cast hrange.1)
        (by exact_mod_cast hrange.2)
    · have hn : 0 < n := by omega
      rw [hd] at hrange
      rw [canonical_of_neg hn hd, String.toList_ofList]
      exact .nonzero true (isMagnitude_magnitudeText hn) (by exact_mod_cast hrange.1)
        (by exact_mod_cast hrange.2)

theorem IsCanonical.exists_canonical {cs : List Char} (h : IsCanonical cs) :
    ∃ d : Duration, d.canonical = String.ofList cs := by
  cases h with
  | zero => exact ⟨Duration.zero, rfl⟩
  | nonzero negative h hlow hhigh =>
      obtain ⟨n, hn, rfl, rfl⟩ := h.exists_magnitudeText
      cases negative with
      | true =>
          have hrange : InRange (-n) := ⟨by exact_mod_cast hlow, by exact_mod_cast hhigh⟩
          exact ⟨⟨-n, hrange⟩, canonical_of_neg hn rfl⟩
      | false =>
          have hrange : InRange n := ⟨by exact_mod_cast hlow, by exact_mod_cast hhigh⟩
          exact ⟨⟨n, hrange⟩, canonical_of_pos hn rfl⟩

/-- The literal of a duration is canonical, and the canonical texts are those that are read as a
duration whose literal is the text itself. -/
theorem isCanonical_iff_reads_back :
    (∀ d : Duration, IsCanonical d.canonical.toList) ∧
      ∀ s : String, IsCanonical s.toList ↔ ∃ d, ofValue (.str s) = .ok d ∧ d.canonical = s := by
  refine ⟨isCanonical_canonical, fun s ↦ ⟨fun h ↦ ?_, ?_⟩⟩
  · obtain ⟨d, hd⟩ := h.exists_canonical
    rw [String.ofList_toList] at hd
    refine ⟨d, ?_, hd⟩
    rw [ofValue_str, ← hd, ofText_canonical]
  · rintro ⟨d, -, rfl⟩
    exact isCanonical_canonical d

end Settings.Duration
