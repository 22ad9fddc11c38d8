import Mathlib.Data.List.Induction
import Mathlib.Data.List.TakeWhile
import Mathlib.Data.Nat.Init
import Mathlib.Tactic.Ring
import Settings.Duration.Canonical
import Settings.Text.Digit

/-!
# Numbers written in decimal

Reading the digits of a number gives the number back.  The same holds of a number with a fraction
whose trailing zeros are left out: the digits that are kept stand for the number in units of the
last place kept, and the places that are missing make up the difference.
-/

namespace Settings.Text

theorem digitValue?_digitChar {d : Nat} (h : d < 10) : digitValue? d.digitChar = some d := by
  revert d
  decide

theorem isDigit_digitChar {d : Nat} (h : d < 10) : isDigit d.digitChar = true := by
  simp [isDigit, digitValue?_digitChar h]

theorem isDigit_zero : isDigit '0' = true := by decide

theorem foldl_withDigit (ds : List Char) (n : ℕ) :
    ds.foldl withDigit n = n * 10 ^ ds.length + ds.foldl withDigit 0 := by
  induction ds generalizing n with
  | nil => simp
  | cons c ds ih =>
      rw [List.foldl_cons, List.foldl_cons, ih (withDigit n c), ih (withDigit 0 c)]
      simp only [withDigit, List.length_cons, Nat.pow_succ]
      ring

/-- However the sequence is cut, its parts make up the number. -/
theorem valueOfHalves_eq_foldl (cuts : ℕ) (cs : List Char) :
    digitsValue.valueOfHalves cuts cs = cs.foldl withDigit 0 := by
  induction cuts generalizing cs with
  | zero => rfl
  | succ cuts ih =>
      have hlength : (cs.drop (cs.length - cs.length / 2)).length = cs.length / 2 := by
        rw [List.length_drop]
        omega
      rw [digitsValue.valueOfHalves, ih, ih]
      conv_rhs => rw [← List.take_append_drop (cs.length - cs.length / 2) cs, List.foldl_append,
        foldl_withDigit, hlength]
      rfl

theorem digitsValue_eq_foldl (cs : List Char) : digitsValue cs = cs.foldl withDigit 0 :=
  valueOfHalves_eq_foldl _ cs

@[simp] theorem digitsValue_nil : digitsValue [] = 0 := rfl

theorem digitsValue_append (cs ds : List Char) :
    digitsValue (cs ++ ds) = digitsValue cs * 10 ^ ds.length + digitsValue ds := by
  simp only [digitsValue_eq_foldl, List.foldl_append]
  exact foldl_withDigit ds _

theorem digitsValue_append_singleton (cs : List Char) (c : Char) :
    digitsValue (cs ++ [c]) = 10 * digitsValue cs + (digitValue? c).getD 0 := by
  rw [digitsValue_eq_foldl, digitsValue_eq_foldl, List.foldl_append]
  rfl

@[simp] theorem digitsValue_replicate_zero (k : Nat) :
    digitsValue (List.replicate k '0') = 0 := by
  induction k with
  | zero => rfl
  | succ k ih =>
      rw [List.replicate_succ', digitsValue_append_singleton, ih]
      decide

@[simp] theorem digitsValue_toDigits (n : Nat) : digitsValue (Nat.toDigits 10 n) = n := by
  induction n using Nat.strong_induction_on with
  | _ n ih =>
      by_cases h : n < 10
      · rw [Nat.toDigits_of_lt_base h, ← List.nil_append [n.digitChar],
          digitsValue_append_singleton, digitValue?_digitChar h]
        simp
      · have hmod : n % 10 < 10 := Nat.mod_lt n (by decide)
        rw [Nat.toDigits_of_base_le (by decide) (Nat.le_of_not_lt h),
          digitsValue_append_singleton, ih (n / 10) (by omega), digitValue?_digitChar hmod,
          Option.getD_some]
        exact Nat.div_add_mod n 10

theorem isDigit_of_mem_toDigits {c : Char} {n : Nat} (h : c ∈ Nat.toDigits 10 n) :
    isDigit c = true := by
  induction n using Nat.strong_induction_on with
  | _ n ih =>
      by_cases hn : n < 10
      · rw [Nat.toDigits_of_lt_base hn, List.mem_singleton] at h
        exact h ▸ isDigit_digitChar hn
      · rw [Nat.toDigits_of_base_le (by decide) (Nat.le_of_not_lt hn), List.mem_append,
          List.mem_singleton] at h
        rcases h with h | h
        · exact ih (n / 10) (by omega) h
        · exact h ▸ isDigit_digitChar (Nat.mod_lt n (by decide))

theorem exists_eq_append_zeros (cs : List Char) :
    ∃ k, cs = (cs.reverse.dropWhile (· == '0')).reverse ++ List.replicate k '0' := by
  refine ⟨(cs.reverse.takeWhile (· == '0')).length, ?_⟩
  have hzeros : cs.reverse.takeWhile (· == '0') =
      List.replicate (cs.reverse.takeWhile (· == '0')).length '0' := by
    refine List.eq_replicate_iff.2 ⟨rfl, fun c hc ↦ ?_⟩
    simpa using List.mem_takeWhile_imp hc
  have hsplit := List.takeWhile_append_dropWhile (p := (· == '0')) (l := cs.reverse)
  rw [hzeros] at hsplit
  calc
    cs = (List.replicate (cs.reverse.takeWhile (· == '0')).length '0'
        ++ cs.reverse.dropWhile (· == '0')).reverse := by rw [hsplit, List.reverse_reverse]
    _ = _ := by rw [List.reverse_append, List.reverse_replicate]

end Settings.Text

namespace Settings.Duration

open Text

/-- The digits of `n / 10 ^ places` behind the point. -/
def fixedFraction (n places : Nat) : List Char :=
  let rest := n % Nat.pow 10 places
  if rest = 0 then []
  else
    let digits := Nat.toDigits 10 rest
    let padded := List.replicate (places - digits.length) '0' ++ digits
    (padded.reverse.dropWhile (· == '0')).reverse

theorem fixedText_eq (n places : Nat) :
    fixedText n places = Nat.toDigits 10 (n / 10 ^ places) ++
      if n % 10 ^ places = 0 then [] else '.' :: fixedFraction n places := by
  by_cases h : n % 10 ^ places = 0
  · simp [fixedText, h]
  · simp [fixedText, fixedFraction, h]

theorem fixedFraction_of_mod_eq_zero {n places : Nat} (h : n % 10 ^ places = 0) :
    fixedFraction n places = [] := by
  simp [fixedFraction, h]

/-- The fraction is what is left of the remainder, padded to all places, when zeros are cut off. -/
theorem exists_fixedFraction_append {n places : Nat} (hp : 0 < places)
    (h : n % 10 ^ places ≠ 0) :
    ∃ j k, fixedFraction n places ++ List.replicate k '0' =
        List.replicate j '0' ++ Nat.toDigits 10 (n % 10 ^ places) ∧
      (fixedFraction n places).length + k = places := by
  have hlen : (Nat.toDigits 10 (n % 10 ^ places)).length ≤ places :=
    (Nat.length_toDigits_le_iff (by decide) hp).2 (Nat.mod_lt n (Nat.pow_pos (by decide)))
  obtain ⟨k, hk⟩ := exists_eq_append_zeros
    (List.replicate (places - (Nat.toDigits 10 (n % 10 ^ places)).length) '0' ++
      Nat.toDigits 10 (n % 10 ^ places))
  have hfraction : fixedFraction n places ++ List.replicate k '0' =
      List.replicate (places - (Nat.toDigits 10 (n % 10 ^ places)).length) '0' ++
        Nat.toDigits 10 (n % 10 ^ places) := by
    rw [hk]
    simp [fixedFraction, h]
  refine ⟨_, k, hfraction, ?_⟩
  have htotal := congrArg List.length hfraction
  simp only [List.length_append, List.length_replicate] at htotal
  omega

theorem length_fixedFraction_le (n : Nat) {places : Nat} (hp : 0 < places) :
    (fixedFraction n places).length ≤ places := by
  by_cases h : n % 10 ^ places = 0
  · simp [fixedFraction_of_mod_eq_zero h]
  · obtain ⟨j, k, -, hlen⟩ := exists_fixedFraction_append hp h
    omega

theorem isDigit_of_mem_fixedFraction {c : Char} {n places : Nat} (hp : 0 < places)
    (hc : c ∈ fixedFraction n places) : isDigit c = true := by
  by_cases h : n % 10 ^ places = 0
  · simp [fixedFraction_of_mod_eq_zero h] at hc
  · obtain ⟨j, k, heq, -⟩ := exists_fixedFraction_append hp h
    have hmem : c ∈ List.replicate j '0' ++ Nat.toDigits 10 (n % 10 ^ places) :=
      heq ▸ List.mem_append_left _ hc
    rcases List.mem_append.1 hmem with hz | hd
    · rw [List.eq_of_mem_replicate hz]
      exact isDigit_zero
    · exact isDigit_of_mem_toDigits hd

/-- All digits that are written, with zeros for the places left out, are those of the number. -/
theorem digitsValue_fixed (n : Nat) {places : Nat} (hp : 0 < places) :
    digitsValue (Nat.toDigits 10 (n / 10 ^ places) ++ fixedFraction n places) *
      10 ^ (places - (fixedFraction n places).length) = n := by
  by_cases h : n % 10 ^ places = 0
  · rw [fixedFraction_of_mod_eq_zero h, List.append_nil, digitsValue_toDigits, List.length_nil,
      Nat.sub_zero]
    exact Nat.div_mul_cancel (Nat.dvd_of_mod_eq_zero h)
  · obtain ⟨j, k, heq, hlen⟩ := exists_fixedFraction_append hp h
    have hk : places - (fixedFraction n places).length = k := by omega
    have hrest : digitsValue (fixedFraction n places) * 10 ^ k = n % 10 ^ places := by
      have hvalue := congrArg digitsValue heq
      simpa [digitsValue_append] using hvalue
    rw [hk, digitsValue_append, digitsValue_toDigits, Nat.add_mul, hrest, Nat.mul_assoc,
      ← Nat.pow_add, hlen, Nat.mul_comm]
    exact Nat.div_add_mod n (10 ^ places)

end Settings.Duration
