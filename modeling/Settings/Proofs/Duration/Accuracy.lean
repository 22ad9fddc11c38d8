import Settings.Proofs.Decimal.Rounding
import Settings.Proofs.Duration.Recognition
import Settings.Proofs.Duration.RoundTrip

/-!
# How accurate durations are read

The terms of a literal state a rational number of microseconds.  A literal in range has products and
running sums below `10 ^ 20`; each of them is therefore off by at most half a unit of the eighth
place.  With at most five
digits behind the points nothing is rounded, and the time is the stated one, cut off towards zero.
-/

namespace Settings.Duration

open Text

/-! ## What a literal states -/

def TimeUnit.inMicros : TimeUnit → ℚ
  | .nanosecond => 1 / 1000
  | .microsecond => 1
  | .millisecond => 1000
  | .second => 1000000
  | .minute => 60 * 1000000
  | .hour => 60 * 60 * 1000000

/-- The amount times the unit, in microseconds. -/
def Term.stated (t : Term) : ℚ :=
  (digitsValue t.whole + digitsValue t.fraction / 10 ^ t.fraction.length) * t.unit.inMicros

def statedTotal : List Term → ℚ
  | [] => 0
  | t :: ts => t.stated + statedTotal ts

/-- The texts of a literal with the given sign and terms.  A lone zero has no terms. -/
inductive Writes : Bool → List Term → List Char → Prop where
  | zero {negative : Bool} {sign : List Char} (hsign : IsSign negative sign) :
      Writes negative [] (sign ++ ['0'])
  | terms {negative : Bool} {sign body : List Char} {ts : List Term}
      (hsign : IsSign negative sign) (hne : body ≠ []) (hbody : Spells ts body) :
      Writes negative ts (sign ++ body)

def towardsZero (q : ℚ) : ℤ := if 0 ≤ q then ⌊q⌋ else ⌈q⌉

theorem TimeUnit.toRat_micros (unit : TimeUnit) : unit.micros.toRat = unit.inMicros := by
  cases unit <;> norm_num [micros, inMicros, Decimal.toRat]

theorem Term.exact_eq_stated (t : Term) : t.exact = t.stated := by
  have hpow : (10 : ℚ) ^ t.fraction.length ≠ 0 := by positivity
  rw [exact, stated, TimeUnit.toRat_micros, amount, Decimal.toRat, digitsValue_append, zpow_neg,
    zpow_natCast]
  congr 1
  push_cast
  field_simp

theorem exactTotal_eq_statedTotal (ts : List Term) : exactTotal ts = statedTotal ts := by
  induction ts with
  | nil => rfl
  | cons t ts ih => rw [exactTotal, statedTotal, t.exact_eq_stated, ih]

theorem statedTotal_nonneg (ts : List Term) : 0 ≤ statedTotal ts :=
  exactTotal_eq_statedTotal ts ▸ exactTotal_nonneg ts

theorem towardsZero_signed (negative : Bool) {q : ℚ} (hq : 0 ≤ q) :
    towardsZero (if negative then -q else q) = signed negative ⌊q⌋₊ := by
  have hfloor : (⌊q⌋₊ : ℤ) = ⌊q⌋ := Int.natCast_floor_eq_floor hq
  cases negative with
  | false => simp [towardsZero, signed, hq, hfloor]
  | true =>
      simp only [towardsZero, signed, if_true, hfloor]
      split
      · next hneg =>
          have hzero : q = 0 := by linarith
          simp [hzero]
      · exact Int.ceil_neg

theorem Writes.denotes {negative : Bool} {ts : List Term} {cs : List Char}
    (h : Writes negative ts cs) : Denotes cs (signed negative (total ts).floor) := by
  cases h with
  | zero hsign =>
      have hzero : signed negative (total []).floor = 0 := by cases negative <;> rfl
      rw [hzero]
      exact .zero hsign
  | terms hsign hne hbody =>
      obtain ⟨pieces, hpieces, rfl⟩ := spells_iff_forall₂.1 hbody
      refine .terms hsign ?_ hpieces
      rintro rfl
      exact hne rfl

theorem ofValue_eq_ok_iff_of_writes {s : String} {negative : Bool} {ts : List Term}
    (h : Writes negative ts (strip s)) {d : Duration} :
    ofValue (.str s) = .ok d ↔ d.micros = signed negative (total ts).floor := by
  rw [ofValue_str, ofText, mapError_eq_ok_iff, ofLiteral_eq_ok_iff]
  constructor
  · intro hd
    exact hd.unique h.denotes
  · intro hd
    rw [hd]
    exact h.denotes

/-! ## Running sums -/

theorem abs_add_micros_sub_le {x : Decimal} {t : Term} (hlt : (x.add t.micros).toRat < 10 ^ 20) :
    |(x.add t.micros).toRat - (x.toRat + t.exact)| ≤ 10 ^ (-8 : ℤ) := by
  have hsum := Decimal.add_toRat_lt hlt
  have hx := x.toRat_nonneg
  -- half a unit for the product and half a unit for the sum
  have hmul : |t.micros.toRat - t.exact| ≤ 10 ^ (-8 : ℤ) / 2 :=
    Decimal.abs_mul_sub_le (lt_of_le_of_lt (le_add_of_nonneg_left hx) hsum)
  have hadd := Decimal.abs_add_sub_le hlt
  calc
    |(x.add t.micros).toRat - (x.toRat + t.exact)|
        = |(x.add t.micros).toRat - (x.toRat + t.micros.toRat)
            + (t.micros.toRat - t.exact)| := by ring_nf
    _ ≤ |(x.add t.micros).toRat - (x.toRat + t.micros.toRat)|
        + |t.micros.toRat - t.exact| := abs_add_le _ _
    _ ≤ 10 ^ (-8 : ℤ) / 2 + 10 ^ (-8 : ℤ) / 2 := add_le_add hadd hmul
    _ = 10 ^ (-8 : ℤ) := add_halves _

theorem abs_foldl_add_sub_le {x : Decimal} {ts : List Term}
    (hlt : (ts.foldl (fun sum t => sum.add t.micros) x).toRat < 10 ^ 20) :
    |(ts.foldl (fun sum t => sum.add t.micros) x).toRat - (x.toRat + exactTotal ts)|
      ≤ ts.length * 10 ^ (-8 : ℤ) := by
  induction ts generalizing x with
  | nil => simp [exactTotal]
  | cons t ts ih =>
      rw [List.foldl_cons] at hlt ⊢
      -- the last sum is small, hence so is the next one
      have hstep := abs_add_micros_sub_le (lt_of_foldl_add_lt hlt)
      have hrest := ih hlt
      generalize ts.foldl (fun sum t => sum.add t.micros) (x.add t.micros) = y at hrest ⊢
      calc
        |y.toRat - (x.toRat + exactTotal (t :: ts))|
            = |y.toRat - ((x.add t.micros).toRat + exactTotal ts)
                + ((x.add t.micros).toRat - (x.toRat + t.exact))| := by
              rw [exactTotal]
              ring_nf
        _ ≤ ts.length * 10 ^ (-8 : ℤ) + 10 ^ (-8 : ℤ) :=
            (abs_add_le _ _).trans (add_le_add hrest hstep)
        _ = (t :: ts).length * 10 ^ (-8 : ℤ) := by
            rw [List.length_cons]
            push_cast
            ring

/-- Without rounding, a sum that comes out below `10 ^ 20` is below it. -/
theorem exactTotal_lt_of_foldl_lt {x : Decimal} {ts : List Term} (hx : -8 ≤ x.exponent)
    (hplaces : ∀ t ∈ ts, -8 ≤ t.lastPlace)
    (hlt : (ts.foldl (fun sum t => sum.add t.micros) x).toRat < 10 ^ 20) :
    x.toRat + exactTotal ts < 10 ^ 20 := by
  induction ts generalizing x with
  | nil => simpa [exactTotal] using hlt
  | cons t ts ih =>
      rw [List.foldl_cons] at hlt
      have hplace : -8 ≤ t.lastPlace := hplaces t List.mem_cons_self
      have hsum := Decimal.add_toRat_lt (lt_of_foldl_add_lt hlt)
      have hx0 := x.toRat_nonneg
      have hproduct : t.exact < 10 ^ 20 :=
        Decimal.mul_toRat_lt (lt_of_le_of_lt (le_add_of_nonneg_left hx0) hsum)
      have hmicros := t.micros_eq_mulExact hplace hproduct
      have hexponent : -8 ≤ t.micros.exponent := by
        rw [hmicros]
        exact hplace
      have hadd := Decimal.add_eq_addExact hx hexponent hsum
      have hexponent' : -8 ≤ (x.add t.micros).exponent := by
        rw [hadd]
        exact le_min hx hexponent
      have hvalue : (x.add t.micros).toRat = x.toRat + t.exact := by
        rw [hadd, Decimal.toRat_addExact, hmicros, Decimal.toRat_mulExact]
        rfl
      have hrest := ih hexponent' (fun u hu ↦ hplaces u (List.mem_cons_of_mem t hu)) hlt
      rw [hvalue] at hrest
      rw [exactTotal]
      linarith

/-! ## Whole literals -/

theorem abs_signed (negative : Bool) (n : ℕ) : |signed negative n| = n := by
  cases negative <;> simp [signed]

theorem abs_total_sub_le {ts : List Term} (hlt : (total ts).toRat < 10 ^ 20) :
    |(total ts).toRat - statedTotal ts| ≤ ts.length * 10 ^ (-8 : ℤ) := by
  have herror := abs_foldl_add_sub_le hlt
  rwa [Decimal.toRat_zero, zero_add, exactTotal_eq_statedTotal] at herror

/-- With few places the sum is exact, whether it is the sum that is known to be small or what the
terms state. -/
theorem toRat_total_eq {ts : List Term} (hplaces : ∀ t ∈ ts, -8 ≤ t.lastPlace)
    (hlt : (total ts).toRat < 10 ^ 20 ∨ statedTotal ts < 10 ^ 20) :
    (total ts).toRat = statedTotal ts := by
  have hexact : Decimal.zero.toRat + exactTotal ts < 10 ^ 20 := by
    rcases hlt with htotal | hstated
    · exact exactTotal_lt_of_foldl_lt (by decide) hplaces htotal
    · rwa [Decimal.toRat_zero, zero_add, exactTotal_eq_statedTotal]
  rw [total, toRat_foldl_add (by decide) hplaces hexact, Decimal.toRat_zero, zero_add,
    exactTotal_eq_statedTotal]

theorem lastPlace_of_length_fraction {t : Term} (h : t.fraction.length ≤ 5) :
    -8 ≤ t.lastPlace := by
  have hunit : -3 ≤ t.unit.micros.exponent := by cases t.unit <;> decide
  simp only [Term.lastPlace, Term.amount]
  omega

/-- A literal that is accepted is less than a microsecond away from what it states, apart from a
unit of the eighth place for each term.  With at most five digits behind every point it is accepted
exactly if what it states, cut off towards zero, is in range, and it is read as just that. -/
theorem reads_near_stated {s : String} {negative : Bool} {ts : List Term}
    (h : Writes negative ts (strip s)) :
    (∀ d, ofValue (.str s) = .ok d →
      |((|d.micros| : ℤ) : ℚ) - statedTotal ts| < 1 + ts.length * 10 ^ (-8 : ℤ)) ∧
    ((∀ t ∈ ts, t.fraction.length ≤ 5) →
      ((∃ d, ofValue (.str s) = .ok d) ↔
        InRange (towardsZero (if negative then -statedTotal ts else statedTotal ts))) ∧
      ∀ d, ofValue (.str s) = .ok d →
        d.micros = towardsZero (if negative then -statedTotal ts else statedTotal ts)) := by
  have hread (d : Duration) :
      ofValue (.str s) = .ok d ↔ d.micros = signed negative ⌊(total ts).toRat⌋₊ := by
    rw [ofValue_eq_ok_iff_of_writes h, Decimal.floor_eq]
  have hsmall {d : Duration} (hd : ofValue (.str s) = .ok d) : (total ts).toRat < 10 ^ 20 :=
    lt_of_inRange_signed_floor ((hread d).1 hd ▸ d.inRange)
  constructor
  · intro d hd
    have herror := abs_le.1 (abs_total_sub_le (hsmall hd))
    have hfloor := Nat.floor_le (total ts).toRat_nonneg
    have hfloor' := Nat.lt_floor_add_one (total ts).toRat
    rw [(hread d).1 hd, abs_signed, Int.cast_natCast, abs_lt]
    constructor <;> linarith
  · intro hfew
    have hplaces : ∀ t ∈ ts, -8 ≤ t.lastPlace := fun t ht ↦
      lastPlace_of_length_fraction (hfew t ht)
    have hexact {d : Duration} (hd : ofValue (.str s) = .ok d) :
        d.micros = signed negative ⌊statedTotal ts⌋₊ := by
      rw [(hread d).1 hd, toRat_total_eq hplaces (.inl (hsmall hd))]
    rw [towardsZero_signed negative (statedTotal_nonneg ts)]
    refine ⟨⟨?_, fun hrange ↦ ?_⟩, fun d ↦ hexact⟩
    · rintro ⟨d, hd⟩
      exact hexact hd ▸ d.inRange
    · have hsum := toRat_total_eq hplaces (.inr (lt_of_inRange_signed_floor hrange))
      refine ⟨⟨_, hrange⟩, (hread _).2 ?_⟩
      rw [hsum]

/-- The terms of `1.5h250.7ns`. -/
def mixedUnits : List Term := [⟨['1'], ['5'], .hour⟩, ⟨['2', '5', '0'], ['7'], .nanosecond⟩]

theorem writes_mixedUnits : Writes true mixedUnits (strip " -1.5h250.7ns") := by
  have hstrip : strip " -1.5h250.7ns" =
      ['-'] ++ (['1', '.', '5', 'h'] ++ ['2', '5', '0', '.', '7', 'n', 's']) := by decide
  have hdigits : isDigit '0' ∧ isDigit '1' ∧ isDigit '2' ∧ isDigit '5' ∧ isDigit '7' := by decide
  rw [hstrip]
  refine .terms .minus (by simp) (.cons ?_ (.single ?_))
  · exact .pointed (u := ['h']) (by simp) (by simp [hdigits]) (by simp [hdigits]) (by decide)
  · exact .pointed (u := ['n', 's']) (by simp) (by simp [hdigits]) (by simp [hdigits]) (by decide)

theorem statedTotal_mixedUnits : statedTotal mixedUnits = 5400000000 + 2507 / 10000 := by
  have hdigits : digitsValue ['1'] = 1 ∧ digitsValue ['5'] = 5 ∧
      digitsValue ['2', '5', '0'] = 250 ∧ digitsValue ['7'] = 7 := by decide
  obtain ⟨h1, h5, h250, h7⟩ := hdigits
  simp only [statedTotal, mixedUnits, Term.stated, TimeUnit.inMicros, h1, h5, h250, h7,
    List.length_singleton]
  norm_num

theorem reads_near_stated_mixedUnits :
    Writes true mixedUnits (strip " -1.5h250.7ns") ∧ (∀ t ∈ mixedUnits, t.fraction.length ≤ 5) ∧
      ∃ d, ofValue (.str " -1.5h250.7ns") = .ok d ∧ d.micros = -5400000000 ∧
        |((|d.micros| : ℤ) : ℚ) - (5400000000 + 2507 / 10000)| < 1 + 2 * 10 ^ (-8 : ℤ) := by
  have hfew : ∀ t ∈ mixedUnits, t.fraction.length ≤ 5 := by decide
  obtain ⟨hnear, hexact⟩ := reads_near_stated writes_mixedUnits
  obtain ⟨haccepted, hmicros⟩ := hexact hfew
  have hcut : towardsZero (if true then -statedTotal mixedUnits else statedTotal mixedUnits) =
      -5400000000 := by
    have hfloor : ⌊(5400000000 + 2507 / 10000 : ℚ)⌋₊ = 5400000000 := by
      rw [Nat.floor_eq_iff (by norm_num)]
      norm_num
    rw [towardsZero_signed true (statedTotal_nonneg _), statedTotal_mixedUnits, hfloor]
    rfl
  rw [hcut] at haccepted hmicros
  obtain ⟨d, hd⟩ := haccepted.2 (by decide)
  refine ⟨writes_mixedUnits, hfew, d, hd, hmicros d hd, ?_⟩
  rw [← statedTotal_mixedUnits]
  exact_mod_cast hnear d hd

end Settings.Duration
