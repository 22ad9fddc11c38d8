/-!
# Rounding quotients

One quotient, rounded to the nearest whole number; an exact half goes to the even neighbour.
-/

namespace Settings

/-- `num / den` rounded to the nearest natural number, ties to even. -/
def roundDiv (num den : Nat) : Nat :=
  let q := num / den
  let r := num % den
  if 2 * r < den then q
  else if den < 2 * r then q + 1
  else if q % 2 = 0 then q else q + 1

theorem roundDiv_eq_or (num den : Nat) :
    roundDiv num den = num / den ∨ roundDiv num den = num / den + 1 := by
  simp only [roundDiv]
  split
  · exact .inl rfl
  · split
    · exact .inr rfl
    · split
      · exact .inl rfl
      · exact .inr rfl

/-- The rounded quotient is at most half a unit below or above the exact one. -/
theorem roundDiv_bounds (num : Nat) {den : Nat} (h : 0 < den) :
    2 * num ≤ den * (2 * roundDiv num den + 1) ∧ den * (2 * roundDiv num den) ≤ 2 * num + den := by
  have hq := Nat.div_add_mod num den
  have hr := Nat.mod_lt num h
  simp only [roundDiv]
  generalize num / den = q at *
  generalize num % den = r at *
  have key : num = den * q + r := hq.symm
  have e1 : den * (2 * q + 1) = 2 * (den * q) + den := by
    rw [Nat.mul_add, Nat.mul_left_comm, Nat.mul_one]
  have e2 : den * (2 * q) = 2 * (den * q) := Nat.mul_left_comm ..
  have e3 : den * (2 * (q + 1) + 1) = 2 * (den * q) + 3 * den := by
    rw [Nat.mul_add, Nat.mul_left_comm, Nat.mul_add den q 1, Nat.mul_one]; omega
  have e4 : den * (2 * (q + 1)) = 2 * (den * q) + 2 * den := by
    rw [Nat.mul_left_comm, Nat.mul_add den q 1, Nat.mul_one]; omega
  split
  · rw [e1, e2]; omega
  · split
    · rw [e3, e4]; omega
    · split
      · rw [e1, e2]; omega
      · rw [e3, e4]; omega

end Settings
