import Settings.Rounding

/-!
# Decimal arithmetic of fixed precision

Non-negative decimal numbers with exact coefficients.  Products and sums keep 28 significant
digits; what lies beyond is rounded to the nearest neighbour, ties to the even one.  A result whose
first digit stands too far in front of the point is none.
-/

namespace Settings

/-- The number `coefficient · 10 ^ exponent`. -/
structure Decimal where
  coefficient : Nat
  exponent : Int
  deriving DecidableEq, Repr

/-- Divides `n` by powers of `b` as often as it goes: what is left, and how often that was.  The base
is squared at most `squarings` times. -/
def divideOut (squarings b n : Nat) : Nat × Nat :=
  match squarings with
  | 0 => (n, 0)
  | squarings + 1 =>
      if n < b then (n, 0)
      else
        let (q, e) := divideOut squarings (b * b) n
        if q < b then (q, 2 * e) else (q / b, 2 * e + 1)

/-- The number of decimal digits of `n`; zero has one. -/
def digitCount (n : Nat) : Nat := (divideOut (n.log2 + 1) 10 n).2 + 1

namespace Decimal

def precision : Nat := 28

/-- The exponent that the first digit of a result may have at most. -/
def maxExponent : Int := 999999

/-- The number zero. -/
def zero : Decimal := ⟨0, 0⟩

def ofNat (n : Nat) : Decimal := ⟨n, 0⟩

/-- Keeps `precision` digits of the coefficient. -/
def rounded (x : Decimal) : Decimal :=
  let excess := digitCount x.coefficient - precision
  if excess = 0 then x else ⟨roundDiv x.coefficient (Nat.pow 10 excess), x.exponent + excess⟩

/-- The coefficient of `x` when it is written with the exponent `e`, which is not above its own. -/
def coefficientAt (x : Decimal) (e : Int) : Nat :=
  x.coefficient * Nat.pow 10 (x.exponent - e).toNat

def mulExact (x y : Decimal) : Decimal :=
  ⟨x.coefficient * y.coefficient, x.exponent + y.exponent⟩

def addExact (x y : Decimal) : Decimal :=
  let e := min x.exponent y.exponent
  ⟨x.coefficientAt e + y.coefficientAt e, e⟩

/-- The product to 28 digits, of any size. -/
def mul (x y : Decimal) : Decimal := (x.mulExact y).rounded

/-- The sum to 28 digits, of any size. -/
def add (x y : Decimal) : Decimal := (x.addExact y).rounded

/-- Whether the first digit stands too far in front of the point. -/
def isTooLarge (x : Decimal) : Bool :=
  x.coefficient ≠ 0 && maxExponent < x.exponent + digitCount x.coefficient - 1

def ofResult? (x : Decimal) : Option Decimal := if x.isTooLarge then none else some x

def mul? (x y : Decimal) : Option Decimal := ofResult? (x.mul y)

def add? (x y : Decimal) : Option Decimal := ofResult? (x.add y)

def floor (x : Decimal) : Nat :=
  if 0 ≤ x.exponent then x.coefficient * Nat.pow 10 x.exponent.toNat
  else x.coefficient / Nat.pow 10 (-x.exponent).toNat

theorem rounded_of_digitCount_le {x : Decimal} (h : digitCount x.coefficient ≤ precision) :
    x.rounded = x := by
  simp [rounded, Nat.sub_eq_zero_of_le h]

@[simp] theorem floor_ofNat (n : Nat) : (ofNat n).floor = n := by
  simp [floor, ofNat]

end Decimal

end Settings
