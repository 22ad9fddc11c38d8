import Settings.Duration.Literal
import Settings.Proofs.Decimal.Limit
import Settings.Proofs.Decimal.Rounding

/-!
# Sums of terms

Adding terms gives the sum that it would give if decimal numbers had no largest exponent, or it
stops at a term or a sum that is too large.  A sum does not become smaller when a term is added, so
that it never stops on the way to a sum below `10 ^ 20`.
-/

namespace Settings.Duration

/-- The term in microseconds to 28 digits, of any size. -/
def Term.micros (t : Term) : Decimal := t.amount.mul t.unit.micros

/-- The sum of the terms in microseconds, to 28 digits after each step and of any size. -/
def total (ts : List Term) : Decimal :=
  ts.foldl (fun sum t => sum.add t.micros) .zero

/-- The sum of the terms as far as it is none too large. -/
def addAll? (sum : Decimal) (ts : List Term) : Option Decimal :=
  ts.foldlM (fun sum t => t.addTo? sum) sum

/-- The term or the sum with it is too large for a decimal number. -/
def Term.Exceeds (t : Term) (sum : Decimal) : Prop :=
  10 ^ (Decimal.maxExponent + 1) ≤ t.micros.toRat ∨
    10 ^ (Decimal.maxExponent + 1) ≤ (sum.add t.micros).toRat

/-! ## One term -/

theorem Term.addTo?_eq_none_iff {t : Term} {sum : Decimal} :
    t.addTo? sum = none ↔ t.Exceeds sum := by
  rw [Exceeds, addTo?, Decimal.mul?, ← micros, ← Decimal.ofResult?_eq_none_iff]
  cases hmicros : Decimal.ofResult? t.micros with
  | none => simp
  | some x =>
      obtain rfl := Decimal.eq_of_ofResult? hmicros
      rw [Option.bind_some, Decimal.add?, Decimal.ofResult?_eq_none_iff]
      simp

theorem Term.eq_of_addTo? {t : Term} {sum x : Decimal} (h : t.addTo? sum = some x) :
    x = sum.add t.micros := by
  obtain ⟨y, hy, hx⟩ := Option.bind_eq_some_iff.1 h
  obtain rfl := Decimal.eq_of_ofResult? hy
  exact (Decimal.eq_of_ofResult? hx).symm

theorem Term.addTo?_of_lt {t : Term} {sum : Decimal} (hlt : (sum.add t.micros).toRat < 10 ^ 20) :
    t.addTo? sum = some (sum.add t.micros) := by
  have hsum := Decimal.add_toRat_lt hlt
  have hmicros : t.micros.toRat < 10 ^ 20 :=
    lt_of_le_of_lt (le_add_of_nonneg_left sum.toRat_nonneg) hsum
  have hproduct : t.amount.mul? t.unit.micros = some t.micros := Decimal.ofResult?_of_lt hmicros
  rw [addTo?, hproduct, Option.bind_some]
  exact Decimal.ofResult?_of_lt hlt

/-! ## All terms -/

theorem le_toRat_foldl_add {x : Decimal} (ts : List Term) (hle : 10 ^ 20 ≤ x.toRat) :
    10 ^ 20 ≤ (ts.foldl (fun sum t => sum.add t.micros) x).toRat := by
  induction ts generalizing x with
  | nil => exact hle
  | cons t ts ih =>
      apply ih
      by_contra hlt
      have hsum := Decimal.add_toRat_lt (lt_of_not_ge hlt)
      have ht := t.micros.toRat_nonneg
      linarith

theorem lt_of_foldl_add_lt {x : Decimal} {ts : List Term}
    (hlt : (ts.foldl (fun sum t => sum.add t.micros) x).toRat < 10 ^ 20) : x.toRat < 10 ^ 20 := by
  by_contra hge
  exact absurd hlt (not_lt_of_ge (le_toRat_foldl_add ts (not_lt.1 hge)))

theorem addAll?_cons (sum : Decimal) (t : Term) (ts : List Term) :
    addAll? sum (t :: ts) = (t.addTo? sum).bind fun sum' ↦ addAll? sum' ts :=
  List.foldlM_cons

theorem eq_of_addAll? {sum x : Decimal} {ts : List Term} (h : addAll? sum ts = some x) :
    x = ts.foldl (fun sum t => sum.add t.micros) sum := by
  induction ts generalizing sum with
  | nil => exact (Option.some.inj h).symm
  | cons t ts ih =>
      rw [addAll?_cons] at h
      obtain ⟨y, hy, hx⟩ := Option.bind_eq_some_iff.1 h
      rw [List.foldl_cons, ← t.eq_of_addTo? hy]
      exact ih hx

theorem addAll?_of_lt {sum : Decimal} {ts : List Term}
    (hlt : (ts.foldl (fun sum t => sum.add t.micros) sum).toRat < 10 ^ 20) :
    addAll? sum ts = some (ts.foldl (fun sum t => sum.add t.micros) sum) := by
  induction ts generalizing sum with
  | nil => rfl
  | cons t ts ih =>
      rw [List.foldl_cons] at hlt ⊢
      rw [addAll?_cons, t.addTo?_of_lt (lt_of_foldl_add_lt hlt)]
      exact ih hlt

theorem addAll?_zero_of_lt {ts : List Term} (hlt : (total ts).toRat < 10 ^ 20) :
    addAll? .zero ts = some (total ts) :=
  addAll?_of_lt hlt

end Settings.Duration
