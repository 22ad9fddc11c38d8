import Mathlib.Tactic.FieldSimp
import Mathlib.Tactic.Positivity
import Mathlib.Data.Rat.Defs
import Settings.Proofs.Duration.Digits

/-!
# Numbers in their shortest spelling

A numeral is a number in ASCII digits without leading zeros, and an amount is a numeral that may
have a fraction without trailing zeros.  There is one numeral of each natural number and one amount
of each multiple of the last place, namely what the printers write.
-/

namespace Settings.Duration

structure IsNumeral (cs : List Char) : Prop where
  ne_nil : cs ≠ []
  digits : ∀ c ∈ cs, c.isDigit = true
  leading : cs.head? = some '0' → cs = ['0']

/-- The digits behind a point, at most so many. -/
structure IsFraction (places : ℕ) (cs : List Char) : Prop where
  ne_nil : cs ≠ []
  digits : ∀ c ∈ cs, c.isDigit = true
  length_le : cs.length ≤ places
  trailing : cs.getLast? ≠ some '0'

/-- The number that ASCII digits write. -/
def numeralValue (cs : List Char) : ℕ := Nat.ofDigitChars 10 cs 0

/-- The texts of numbers with so many places at most, and the numbers. -/
inductive IsAmount (places : ℕ) : List Char → ℚ → Prop where
  | whole {cs : List Char} (h : IsNumeral cs) : IsAmount places cs (numeralValue cs)
  | pointed {cs fraction : List Char} (h : IsNumeral cs) (hfraction : IsFraction places fraction) :
      IsAmount places (cs ++ '.' :: fraction)
        (numeralValue cs + numeralValue fraction / 10 ^ fraction.length)

/-! ## Digits and the number that they write -/

theorem exists_digitChar {c : Char} (h : c.isDigit = true) : ∃ d < 10, c = d.digitChar := by
  have hrange : 48 ≤ c.toNat ∧ c.toNat ≤ 57 := by
    simpa [Char.isDigit, UInt32.le_iff_toNat_le] using h
  have hd : c.toNat - 48 < 10 := by omega
  refine ⟨c.toNat - 48, hd, Char.toNat_inj.1 ?_⟩
  rw [Nat.toNat_digitChar_of_lt_ten hd]
  omega

theorem numeralValue_append (cs ds : List Char) :
    numeralValue (cs ++ ds) = 10 ^ ds.length * numeralValue cs + numeralValue ds := by
  rw [numeralValue, Nat.ofDigitChars_append, Nat.ofDigitChars_eq_ofDigitChars_zero]
  rfl

@[simp] theorem numeralValue_zeros (k : ℕ) : numeralValue (List.replicate k '0') = 0 := by
  rw [numeralValue, Nat.ofDigitChars_replicate_zero, Nat.mul_zero]

@[simp] theorem numeralValue_toDigits (n : ℕ) : numeralValue (Nat.toDigits 10 n) = n :=
  Nat.ofDigitChars_ten_toDigits

theorem ofDigitChars_lt {cs : List Char} (hcs : ∀ c ∈ cs, c.isDigit = true) (n : ℕ) :
    Nat.ofDigitChars 10 cs n < 10 ^ cs.length * (n + 1) := by
  induction cs generalizing n with
  | nil => simp
  | cons c cs ih =>
      obtain ⟨d, hd, rfl⟩ := exists_digitChar (hcs c List.mem_cons_self)
      have hrest := ih (fun c hc ↦ hcs c (List.mem_cons_of_mem _ hc)) (10 * n + d)
      rw [Nat.ofDigitChars_cons_digitChar_of_lt_ten hd, List.length_cons]
      calc
        Nat.ofDigitChars 10 cs (10 * n + d) < 10 ^ cs.length * (10 * n + d + 1) := hrest
        _ ≤ 10 ^ cs.length * (10 * (n + 1)) := Nat.mul_le_mul_left _ (by omega)
        _ = 10 ^ (cs.length + 1) * (n + 1) := by ring

theorem numeralValue_lt {cs : List Char} (hcs : ∀ c ∈ cs, c.isDigit = true) :
    numeralValue cs < 10 ^ cs.length := by
  have h := ofDigitChars_lt hcs 0
  rwa [Nat.zero_add, Nat.mul_one] at h

/-- Digits behind a number that is not zero write the number that they all make. -/
theorem toDigits_append {cs : List Char} (hcs : ∀ c ∈ cs, c.isDigit = true) {n : ℕ} (hn : 0 < n) :
    Nat.toDigits 10 n ++ cs = Nat.toDigits 10 (Nat.ofDigitChars 10 cs n) := by
  induction cs generalizing n with
  | nil => simp
  | cons c cs ih =>
      obtain ⟨d, hd, rfl⟩ := exists_digitChar (hcs c List.mem_cons_self)
      have hrest := ih (fun c hc ↦ hcs c (List.mem_cons_of_mem _ hc)) (n := 10 * n + d) (by omega)
      have hfirst := Nat.toDigits_append_toDigits (b := 10) (by decide) hn hd
      rw [Nat.toDigits_of_lt_base hd] at hfirst
      rw [Nat.ofDigitChars_cons_digitChar_of_lt_ten hd, ← hrest, ← hfirst, List.append_assoc,
        List.singleton_append]

/-- Texts of equally many digits are told apart by the number that they write. -/
theorem eq_of_numeralValue_eq {cs ds : List Char} (hcs : ∀ c ∈ cs, c.isDigit = true)
    (hds : ∀ c ∈ ds, c.isDigit = true) (hlength : cs.length = ds.length)
    (hvalue : numeralValue cs = numeralValue ds) : cs = ds := by
  -- a leading one keeps the zeros in front
  have h := toDigits_append hcs Nat.one_pos
  rw [Nat.ofDigitChars_eq_ofDigitChars_zero, hlength, ← numeralValue, hvalue, numeralValue,
    ← Nat.ofDigitChars_eq_ofDigitChars_zero, ← toDigits_append hds Nat.one_pos] at h
  exact List.append_cancel_left h

/-! ## Numerals -/

theorem IsNumeral.toDigits_numeralValue {cs : List Char} (h : IsNumeral cs) :
    Nat.toDigits 10 (numeralValue cs) = cs := by
  obtain ⟨c, ds, rfl⟩ := List.exists_cons_of_ne_nil h.ne_nil
  obtain ⟨d, hd, rfl⟩ := exists_digitChar (h.digits c List.mem_cons_self)
  rw [numeralValue, Nat.ofDigitChars_cons_digitChar_of_lt_ten hd, Nat.mul_zero, Nat.zero_add]
  rcases Nat.eq_zero_or_pos d with rfl | hpos
  · obtain rfl : ds = [] := by simpa using h.leading rfl
    rfl
  · have hds : ∀ c ∈ ds, c.isDigit = true := fun c hc ↦ h.digits c (List.mem_cons_of_mem _ hc)
    rw [← toDigits_append hds hpos, Nat.toDigits_of_lt_base hd, List.singleton_append]

theorem head?_toDigits_ne {n : ℕ} (hn : 0 < n) : (Nat.toDigits 10 n).head? ≠ some '0' := by
  induction n using Nat.strong_induction_on with
  | _ n ih =>
      by_cases hsmall : n < 10
      · rw [Nat.toDigits_of_lt_base hsmall]
        simp only [List.head?_cons, ne_eq, Option.some.injEq, Nat.digitChar_eq_zero]
        omega
      · rw [Nat.toDigits_of_base_le (by decide) (Nat.le_of_not_lt hsmall),
          List.head?_append_of_ne_nil _ Nat.toDigits_ne_nil]
        exact ih (n / 10) (by omega) (by omega)

theorem isNumeral_toDigits (n : ℕ) : IsNumeral (Nat.toDigits 10 n) where
  ne_nil := Nat.toDigits_ne_nil
  digits _ := Nat.isDigit_of_mem_toDigits (by decide) (by decide)
  leading h := by
    rcases Nat.eq_zero_or_pos n with rfl | hpos
    · rfl
    · exact absurd h (head?_toDigits_ne hpos)

/-! ## Fractions -/

theorem IsFraction.numeralValue_ne_zero {places : ℕ} {cs : List Char} (h : IsFraction places cs) :
    numeralValue cs ≠ 0 := by
  intro hzero
  have hzeros : cs = List.replicate cs.length '0' := by
    refine eq_of_numeralValue_eq h.digits ?_ (by simp) (by simpa using hzero)
    intro c hc
    rw [List.eq_of_mem_replicate hc]
    rfl
  apply h.trailing
  rw [hzeros, List.getLast?_replicate, if_neg (by simpa using h.ne_nil)]

theorem append_zeros_inj {cs ds : List Char} {k l : ℕ} (hcs : cs.getLast? ≠ some '0')
    (hds : ds.getLast? ≠ some '0')
    (h : cs ++ List.replicate k '0' = ds ++ List.replicate l '0') : cs = ds := by
  have htrim : ∀ (xs : List Char) (n : ℕ), xs.getLast? ≠ some '0' →
      (xs ++ List.replicate n '0').reverse.dropWhile (· == '0') = xs.reverse := by
    intro xs n hxs
    rw [List.reverse_append, List.reverse_replicate, List.dropWhile_append_of_pos (by simp)]
    cases hx : xs.reverse with
    | nil => rfl
    | cons x ys =>
        rw [← List.head?_reverse, hx] at hxs
        have hne : x ≠ '0' := by simpa using hxs
        simp [hne]
  have hreverse := htrim cs k hcs
  rw [h, htrim ds l hds] at hreverse
  exact (List.reverse_inj.1 hreverse).symm

/-! ## Amounts -/

theorem numeralValue_fixedFraction {n places : ℕ} (hp : 0 < places) (h : n % 10 ^ places ≠ 0) :
    numeralValue (fixedFraction n places) * 10 ^ (places - (fixedFraction n places).length) =
      n % 10 ^ places := by
  obtain ⟨j, k, heq, hlen⟩ := exists_fixedFraction_append hp h
  have hk : places - (fixedFraction n places).length = k := by omega
  have hvalue := congrArg numeralValue heq
  rw [numeralValue_append, numeralValue_append, numeralValue_zeros, numeralValue_zeros,
    numeralValue_toDigits, List.length_replicate] at hvalue
  rw [hk, Nat.mul_comm]
  omega

theorem isFraction_fixedFraction {n places : ℕ} (hp : 0 < places) (h : n % 10 ^ places ≠ 0) :
    IsFraction places (fixedFraction n places) where
  ne_nil hnil := by
    have hvalue := numeralValue_fixedFraction hp h
    rw [hnil, show numeralValue [] = 0 from rfl, Nat.zero_mul] at hvalue
    exact h hvalue.symm
  digits c hc := by
    obtain ⟨j, k, heq, -⟩ := exists_fixedFraction_append hp h
    have hmem : c ∈ List.replicate j '0' ++ Nat.toDigits 10 (n % 10 ^ places) :=
      heq ▸ List.mem_append_left _ hc
    rcases List.mem_append.1 hmem with hzero | hdigit
    · rw [List.eq_of_mem_replicate hzero]
      rfl
    · exact Nat.isDigit_of_mem_toDigits (by decide) (by decide) hdigit
  length_le := length_fixedFraction_le n hp
  trailing hlast := by
    simp only [fixedFraction, Nat.pow_eq, h, if_false, List.getLast?_reverse] at hlast
    have hstop := List.head?_dropWhile_not (· == '0') (List.replicate
      (places - (Nat.toDigits 10 (n % 10 ^ places)).length) '0' ++
        Nat.toDigits 10 (n % 10 ^ places)).reverse
    rw [hlast] at hstop
    exact absurd hstop (by decide)

theorem IsFraction.eq_fixedFraction {cs : List Char} {n places : ℕ} (h : IsFraction places cs)
    (hvalue : numeralValue cs * 10 ^ (places - cs.length) = n % 10 ^ places) :
    cs = fixedFraction n places := by
  have hlength := h.length_le
  have hpos : 0 < cs.length := List.length_pos_iff.2 h.ne_nil
  have hp : 0 < places := by omega
  have hne : n % 10 ^ places ≠ 0 := by
    rw [← hvalue]
    exact Nat.mul_ne_zero h.numeralValue_ne_zero (by positivity)
  have hfixed := isFraction_fixedFraction hp hne
  have hlength' := hfixed.length_le
  have hpadded : ∀ {ds : List Char}, IsFraction places ds →
      ∀ c ∈ ds ++ List.replicate (places - ds.length) '0', c.isDigit = true := by
    intro ds hds c hc
    rcases List.mem_append.1 hc with hdigit | hzero
    · exact hds.digits c hdigit
    · rw [List.eq_of_mem_replicate hzero]
      rfl
  refine append_zeros_inj h.trailing hfixed.trailing
    (eq_of_numeralValue_eq (hpadded h) (hpadded hfixed) ?_ ?_)
  · simp only [List.length_append, List.length_replicate]
    omega
  · rw [numeralValue_append, numeralValue_append, numeralValue_zeros, numeralValue_zeros,
      List.length_replicate, List.length_replicate, Nat.mul_comm, hvalue, Nat.mul_comm,
      numeralValue_fixedFraction hp hne]

theorem isAmount_fixedText (n : ℕ) {places : ℕ} (hp : 0 < places) :
    IsAmount places (fixedText n places) (n / 10 ^ places) := by
  have hdiv := Nat.div_add_mod n (10 ^ places)
  have hwhole := isNumeral_toDigits (n / 10 ^ places)
  rw [fixedText_eq]
  by_cases h : n % 10 ^ places = 0
  · have hvalue : (n : ℚ) / 10 ^ places = numeralValue (Nat.toDigits 10 (n / 10 ^ places)) := by
      rw [numeralValue_toDigits, div_eq_iff (by positivity)]
      rw [h, Nat.add_zero, Nat.mul_comm] at hdiv
      exact_mod_cast hdiv.symm
    rw [if_pos h, List.append_nil, hvalue]
    exact .whole hwhole
  · have hfraction := isFraction_fixedFraction hp h
    have hrest := numeralValue_fixedFraction hp h
    have hpow : (10 : ℚ) ^ places = 10 ^ (fixedFraction n places).length *
        10 ^ (places - (fixedFraction n places).length) := by
      rw [← pow_add, Nat.add_sub_cancel' hfraction.length_le]
    have hvalue : (n : ℚ) / 10 ^ places = numeralValue (Nat.toDigits 10 (n / 10 ^ places)) +
        numeralValue (fixedFraction n places) / 10 ^ (fixedFraction n places).length := by
      have hdiv' : (n : ℚ) = 10 ^ places * (n / 10 ^ places : ℕ) +
          numeralValue (fixedFraction n places) *
            10 ^ (places - (fixedFraction n places).length) := by
        rw [← hrest] at hdiv
        exact_mod_cast hdiv.symm
      rw [numeralValue_toDigits, div_eq_iff (by positivity)]
      conv_lhs => rw [hdiv', hpow]
      rw [hpow]
      field_simp
    rw [if_neg h, hvalue]
    exact .pointed hwhole hfraction

/-- An amount is what is written for its number, which is a multiple of the last place. -/
theorem IsAmount.exists_fixedText {places : ℕ} {cs : List Char} {x : ℚ}
    (h : IsAmount places cs x) : ∃ n : ℕ, x = n / 10 ^ places ∧ cs = fixedText n places := by
  cases h with
  | whole hwhole =>
      refine ⟨numeralValue cs * 10 ^ places, ?_, ?_⟩
      · push_cast
        field_simp
      · rw [fixedText_eq, Nat.mul_mod_left, if_pos rfl, List.append_nil,
          Nat.mul_div_cancel _ (by positivity), hwhole.toDigits_numeralValue]
  | @pointed ds fraction hwhole hfraction =>
      have hpow : 10 ^ fraction.length * 10 ^ (places - fraction.length) = 10 ^ places := by
        rw [← pow_add, Nat.add_sub_cancel' hfraction.length_le]
      -- the fraction in units of the last place
      obtain ⟨r, hr⟩ : ∃ r, numeralValue fraction * 10 ^ (places - fraction.length) = r := ⟨_, rfl⟩
      have hbound : r < 10 ^ places := by
        rw [← hr, ← hpow]
        exact Nat.mul_lt_mul_of_pos_right (numeralValue_lt hfraction.digits) (by positivity)
      have hne : r ≠ 0 := by
        rw [← hr]
        exact Nat.mul_ne_zero hfraction.numeralValue_ne_zero (by positivity)
      have hdiv : (10 ^ places * numeralValue ds + r) / 10 ^ places = numeralValue ds := by
        rw [Nat.mul_add_div (by positivity), Nat.div_eq_of_lt hbound, Nat.add_zero]
      have hmod : (10 ^ places * numeralValue ds + r) % 10 ^ places = r := by
        rw [Nat.mul_add_mod, Nat.mod_eq_of_lt hbound]
      refine ⟨10 ^ places * numeralValue ds + r, ?_, ?_⟩
      · have hpow' : (10 : ℚ) ^ places =
            10 ^ fraction.length * 10 ^ (places - fraction.length) := by exact_mod_cast hpow.symm
        rw [← hr]
        push_cast
        rw [hpow']
        field_simp
      · rw [fixedText_eq, hdiv, hmod, if_neg hne, hwhole.toDigits_numeralValue,
          ← hfraction.eq_fixedFraction (hr.trans hmod.symm)]

end Settings.Duration
