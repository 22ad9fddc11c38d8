import Settings.Duration.Reading
import Settings.Proofs.Decimal.Value
import Settings.Proofs.Duration.Digits
import Settings.Proofs.Duration.Grammar

/-!
# Canonical literals read back

The canonical literal of a duration is a text of the grammar, and its terms add up to the duration
in microseconds.  They are small and have few places behind the point, so that neither the products
nor the running sums are rounded, and nothing is cut off at the end.
-/

namespace Settings.Duration

open Text

/-! ## Sums that are not rounded -/

/-- The term in microseconds, exactly. -/
def Term.exact (t : Term) : ℚ := t.amount.toRat * t.unit.micros.toRat

/-- The exact sum of the terms in microseconds. -/
def exactTotal : List Term → ℚ
  | [] => 0
  | t :: ts => t.exact + exactTotal ts

/-- The exponent of the last place of the term in microseconds. -/
def Term.lastPlace (t : Term) : Int := t.amount.exponent + t.unit.micros.exponent

theorem Term.exact_nonneg (t : Term) : 0 ≤ t.exact :=
  mul_nonneg t.amount.toRat_nonneg t.unit.micros.toRat_nonneg

theorem exactTotal_nonneg (ts : List Term) : 0 ≤ exactTotal ts := by
  induction ts with
  | nil => exact le_refl _
  | cons t ts ih => exact add_nonneg t.exact_nonneg ih

theorem Term.micros_eq_mulExact {t : Term} (hplace : -8 ≤ t.lastPlace) (hlt : t.exact < 10 ^ 20) :
    t.micros = t.amount.mulExact t.unit.micros :=
  Decimal.mul_eq_mulExact hplace hlt

/-- The running sum stays exact as long as the whole sum is below `10 ^ 20`. -/
theorem toRat_foldl_add {ts : List Term} {x : Decimal} (hx : -8 ≤ x.exponent)
    (hplaces : ∀ t ∈ ts, -8 ≤ t.lastPlace) (hlt : x.toRat + exactTotal ts < 10 ^ 20) :
    (ts.foldl (fun sum t => sum.add t.micros) x).toRat = x.toRat + exactTotal ts := by
  induction ts generalizing x with
  | nil => simp [exactTotal]
  | cons t ts ih =>
      have hplace : -8 ≤ t.lastPlace := hplaces t (by simp)
      have hts := exactTotal_nonneg ts
      have hx0 := x.toRat_nonneg
      rw [exactTotal] at hlt
      have hmicros := t.micros_eq_mulExact hplace (by linarith)
      have hvalue : t.micros.toRat = t.exact := by rw [hmicros, Decimal.toRat_mulExact]; rfl
      have hexponent : -8 ≤ t.micros.exponent := by rw [hmicros]; exact hplace
      have hadd : x.add t.micros = x.addExact t.micros :=
        Decimal.add_eq_addExact hx hexponent (by rw [hvalue]; linarith)
      have hsum : (x.add t.micros).toRat = x.toRat + t.exact := by
        rw [hadd, Decimal.toRat_addExact, hvalue]
      have hplace' : -8 ≤ (x.add t.micros).exponent := by
        rw [hadd]
        exact le_min hx hexponent
      rw [List.foldl_cons, ih hplace' (fun s hs ↦ hplaces s (List.mem_cons_of_mem t hs))
        (by rw [hsum]; linarith), hsum, exactTotal]
      ring

theorem toRat_total {ts : List Term} (hplaces : ∀ t ∈ ts, -8 ≤ t.lastPlace)
    (hlt : exactTotal ts < 10 ^ 20) : (total ts).toRat = exactTotal ts := by
  have hsum : Decimal.zero.toRat + exactTotal ts < 10 ^ 20 := by
    rwa [Decimal.toRat_zero, zero_add]
  rw [total, toRat_foldl_add (by decide) hplaces hsum, Decimal.toRat_zero, zero_add]

/-! ## The terms of a canonical literal -/

/-- The term that says `n` units. -/
def wholeTerm (n : Nat) (unit : TimeUnit) : Term := ⟨Nat.toDigits 10 n, [], unit⟩

/-- The term that says `n / 10 ^ places` units. -/
def fixedTerm (n places : Nat) (unit : TimeUnit) : Term :=
  ⟨Nat.toDigits 10 (n / 10 ^ places), fixedFraction n places, unit⟩

theorem spelling_wholeTerm (n : Nat) (unit : TimeUnit) {u : List Char}
    (hu : u ∈ unit.spellings) : (wholeTerm n unit).Spelling (Nat.toDigits 10 n ++ u) :=
  .whole Nat.toDigits_ne_nil (fun _ ↦ isDigit_of_mem_toDigits) rfl hu

theorem spelling_fixedTerm (n places : Nat) (unit : TimeUnit) {u : List Char}
    (hp : 0 < places) (hu : u ∈ unit.spellings) :
    (fixedTerm n places unit).Spelling (fixedText n places ++ u) := by
  rw [fixedText_eq, List.append_assoc]
  split
  · next h =>
      exact .whole Nat.toDigits_ne_nil (fun _ ↦ isDigit_of_mem_toDigits)
        (fixedFraction_of_mod_eq_zero h) hu
  · exact .pointed (.inl Nat.toDigits_ne_nil) (fun _ ↦ isDigit_of_mem_toDigits)
      (fun _ ↦ isDigit_of_mem_fixedFraction hp) hu

theorem toRat_amount_wholeTerm (n : Nat) (unit : TimeUnit) :
    (wholeTerm n unit).amount.toRat = n := by
  simp [wholeTerm, Term.amount, Decimal.toRat]

theorem toRat_amount_fixedTerm (n : Nat) {places : Nat} (unit : TimeUnit) (hp : 0 < places) :
    (fixedTerm n places unit).amount.toRat = n / 10 ^ places := by
  have hlength := length_fixedFraction_le n hp
  have hdigits := digitsValue_fixed n hp
  have hpow : (10 : ℚ) ^ places = 10 ^ (places - (fixedFraction n places).length) *
      10 ^ (fixedFraction n places).length := by
    rw [← pow_add, Nat.sub_add_cancel hlength]
  rw [eq_div_iff (by positivity), Term.amount, Decimal.toRat, zpow_neg, zpow_natCast, hpow]
  conv_rhs => rw [← hdigits]
  simp only [fixedTerm, Nat.cast_mul, Nat.cast_pow, Nat.cast_ofNat]
  field_simp

theorem exact_wholeTerm (n : Nat) (unit : TimeUnit) :
    (wholeTerm n unit).exact = n * unit.micros.toRat := by
  rw [Term.exact, toRat_amount_wholeTerm]
  rfl

theorem exact_fixedTerm (n : Nat) {places : Nat} (unit : TimeUnit) (hp : 0 < places) :
    (fixedTerm n places unit).exact = n / 10 ^ places * unit.micros.toRat := by
  rw [Term.exact, toRat_amount_fixedTerm n unit hp]
  rfl

theorem lastPlace_wholeTerm (n : Nat) (unit : TimeUnit) : -8 ≤ (wholeTerm n unit).lastPlace := by
  cases unit <;> simp [wholeTerm, Term.lastPlace, Term.amount, TimeUnit.micros]

theorem lastPlace_fixedTerm (n places : Nat) (unit : TimeUnit) (hp : 0 < places)
    (hplaces : places ≤ 5 ∨ places ≤ 8 ∧ unit ≠ .nanosecond) :
    -8 ≤ (fixedTerm n places unit).lastPlace := by
  have hlength := length_fixedFraction_le n hp
  cases unit <;> simp only [fixedTerm, Term.lastPlace, Term.amount, TimeUnit.micros]
  all_goals grind

/-- The terms of the canonical literal of a positive number of microseconds. -/
def magnitudeTerms (n : Nat) : List Term :=
  if n < 1000 then [wholeTerm n .microsecond]
  else if n < 1000000 then [fixedTerm n 3 .millisecond]
  else if n / 3600000000 ≠ 0 then
    [wholeTerm (n / 3600000000) .hour, wholeTerm (n % 3600000000 / 60000000) .minute,
      fixedTerm (n % 60000000) 6 .second]
  else if n % 3600000000 / 60000000 ≠ 0 then
    [wholeTerm (n % 3600000000 / 60000000) .minute, fixedTerm (n % 60000000) 6 .second]
  else [fixedTerm (n % 60000000) 6 .second]

theorem spells_magnitudeText (n : Nat) : Spells (magnitudeTerms n) (magnitudeText n) := by
  have hseconds := Spells.single (spelling_fixedTerm (n % 60000000) 6 .second (u := ['s'])
    (by decide) (by simp [TimeUnit.spellings]))
  have hminutes := Spells.cons (spelling_wholeTerm (n % 3600000000 / 60000000) .minute
    (u := ['m']) (by simp [TimeUnit.spellings])) hseconds
  have hhours := Spells.cons (spelling_wholeTerm (n / 3600000000) .hour (u := ['h'])
    (by simp [TimeUnit.spellings])) hminutes
  simp only [magnitudeTerms, magnitudeText]
  split
  · exact .single (spelling_wholeTerm n .microsecond (by simp [TimeUnit.spellings]))
  · split
    · exact .single
        (spelling_fixedTerm n 3 .millisecond (by decide) (by simp [TimeUnit.spellings]))
    · split
      · simpa using hhours
      · split
        · simpa using hminutes
        · exact hseconds

theorem lastPlace_magnitudeTerms (n : Nat) : ∀ t ∈ magnitudeTerms n, -8 ≤ t.lastPlace := by
  have hmillis := lastPlace_fixedTerm n 3 .millisecond (by decide) (by decide)
  have hseconds := lastPlace_fixedTerm (n % 60000000) 6 .second (by decide) (by decide)
  unfold magnitudeTerms
  split
  · simpa using lastPlace_wholeTerm n .microsecond
  · split
    · simpa using hmillis
    · split
      · simpa [lastPlace_wholeTerm] using hseconds
      · split
        · simpa [lastPlace_wholeTerm] using hseconds
        · simpa using hseconds

theorem exactTotal_magnitudeTerms (n : Nat) : exactTotal (magnitudeTerms n) = n := by
  have hhours : n = n / 3600000000 * 3600000000 + (n % 3600000000 / 60000000 * 60000000 +
      n % 60000000) := by omega
  unfold magnitudeTerms
  split
  · simp [exactTotal, exact_wholeTerm, TimeUnit.micros, Decimal.toRat]
  · split
    · simp [exactTotal, exact_fixedTerm, TimeUnit.micros, Decimal.toRat]
      ring
    · split
      · conv_rhs => rw [hhours]
        simp [exactTotal, exact_wholeTerm, exact_fixedTerm, TimeUnit.micros, Decimal.toRat]
        ring
      · next hzero =>
          rw [not_not] at hzero
          split
          · conv_rhs => rw [hhours, hzero]
            simp [exactTotal, exact_wholeTerm, exact_fixedTerm, TimeUnit.micros, Decimal.toRat]
            ring
          · next hnone =>
              rw [not_not] at hnone
              conv_rhs => rw [hhours, hzero, hnone]
              simp [exactTotal, exact_fixedTerm, TimeUnit.micros, Decimal.toRat]
              ring

/-! ## The round trip -/

theorem inRange_iff (n : Int) :
    InRange n ↔ -86399999913600000000 ≤ n ∧ n ≤ 86399999999999999999 := by
  unfold InRange minMicros maxMicros maxDays microsPerDay
  omega

theorem natAbs_micros_lt (d : Duration) : d.micros.natAbs < 10 ^ 20 := by
  have h := (inRange_iff _).1 d.inRange
  omega

theorem ofText_of_literalMicros {s : String} {d : Duration}
    (h : literalMicros (strip s) = .ok d.micros) : ofText s = .ok d := by
  have hd : ofLiteral s = .ok d := by simp only [ofLiteral, h, ofMicros?_micros]
  rw [ofText, hd]
  rfl

theorem total_of_exactTotal_eq {ts : List Term} {n : Nat} (hplaces : ∀ t ∈ ts, -8 ≤ t.lastPlace)
    (hn : n < 10 ^ 20) (hsum : exactTotal ts = n) :
    (total ts).toRat < 10 ^ 20 ∧ (total ts).floor = n := by
  have hlt : exactTotal ts < 10 ^ 20 := by
    rw [hsum]
    exact_mod_cast hn
  have htotal := toRat_total hplaces hlt
  exact ⟨htotal ▸ hlt, Decimal.floor_eq_of_toRat_eq (htotal.trans hsum)⟩

/-- A text of the grammar is read as the duration that its terms add up to. -/
theorem ofText_of_spells {ts : List Term} {cs : List Char} (h : Spells ts cs) (hne : cs ≠ [])
    (hplaces : ∀ t ∈ ts, -8 ≤ t.lastPlace) {d : Duration} {n : Nat} (hd : d.micros = n)
    (hsum : exactTotal ts = n) : ofText (String.ofList cs) = .ok d := by
  have hn : n < 10 ^ 20 := by
    have h := d.natAbs_micros_lt
    omega
  obtain ⟨hlt, hfloor⟩ := total_of_exactTotal_eq hplaces hn hsum
  apply ofText_of_literalMicros
  rw [strip_of_spells h, literalMicros_of_spells h hne hlt, hfloor, hd]

theorem ofText_minus_of_spells {ts : List Term} {cs : List Char} (h : Spells ts cs) (hne : cs ≠ [])
    (hplaces : ∀ t ∈ ts, -8 ≤ t.lastPlace) {d : Duration} {n : Nat} (hd : d.micros = -n)
    (hsum : exactTotal ts = n) : ofText (String.ofList ('-' :: cs)) = .ok d := by
  have hn : n < 10 ^ 20 := by
    have h := d.natAbs_micros_lt
    omega
  obtain ⟨hlt, hfloor⟩ := total_of_exactTotal_eq hplaces hn hsum
  apply ofText_of_literalMicros
  rw [strip_minus_of_spells h hne, literalMicros_minus_of_spells h hne hlt, hfloor, hd]

/-- A text of one term without a fraction is read as that many units. -/
theorem ofText_wholeTerm (n : Nat) (unit : TimeUnit) {u : List Char} (hu : u ∈ unit.spellings)
    {d : Duration} {m : Nat} (hd : d.micros = m) (hm : (n : ℚ) * unit.micros.toRat = m) :
    ofText (String.ofList (Nat.toDigits 10 n ++ u)) = .ok d := by
  have hspells := Spells.single (spelling_wholeTerm n unit hu)
  apply ofText_of_spells hspells (by simp) (by simp [lastPlace_wholeTerm]) hd
  rw [exactTotal, exactTotal, exact_wholeTerm, add_zero, hm]

theorem magnitudeTerms_ne_nil (n : Nat) : magnitudeTerms n ≠ [] := by
  unfold magnitudeTerms
  grind

theorem magnitudeText_ne_nil (n : Nat) : magnitudeText n ≠ [] :=
  (spells_magnitudeText n).ne_nil (magnitudeTerms_ne_nil n)

@[simp] theorem ofText_canonical (d : Duration) : ofText d.canonical = .ok d := by
  have hspells := spells_magnitudeText d.micros.natAbs
  have hne := magnitudeText_ne_nil d.micros.natAbs
  have hplaces := lastPlace_magnitudeTerms d.micros.natAbs
  have hsum := exactTotal_magnitudeTerms d.micros.natAbs
  unfold canonical
  split
  · next hzero => exact ofText_wholeTerm 0 .second List.mem_cons_self hzero (by simp)
  · split
    · next hneg =>
        rw [List.singleton_append]
        exact ofText_minus_of_spells hspells hne hplaces (by omega) hsum
    · next hpos =>
        rw [List.nil_append]
        exact ofText_of_spells hspells hne hplaces (by omega) hsum

/-- The durations are those of the whole range of microseconds, and the canonical literal of each
is read as the duration itself. -/
theorem canonical_reads_back :
    (∀ n : Int, (∃ d : Duration, d.micros = n) ↔
      -86399999913600000000 ≤ n ∧ n ≤ 86399999999999999999) ∧
    ∀ d : Duration, ofValue (.str d.canonical) = .ok d := by
  refine ⟨fun n ↦ ?_, ofText_canonical⟩
  rw [← inRange_iff]
  constructor
  · rintro ⟨d, rfl⟩
    exact d.inRange
  · intro h
    exact ⟨⟨n, h⟩, rfl⟩

end Settings.Duration
