import Settings.Double.Nearest

/-!
# The shortest text of a double

The digits of a double are the fewest that read back as the same double, and of those the nearest
to its exact value.  All comparisons are made between fractions of natural numbers.
-/

namespace Settings.Double

structure Fraction where
  num : Nat
  den : Nat

/-- `m · 2 ^ e` as a fraction. -/
def Fraction.ofBinary (m : Nat) (e : Int) : Fraction :=
  if 0 ≤ e then ⟨m * Nat.pow 2 e.toNat, 1⟩ else ⟨m, Nat.pow 2 (-e).toNat⟩

/-- `n · 10 ^ e` as a fraction. -/
def Fraction.ofDecimal (n : Nat) (e : Int) : Fraction :=
  if 0 ≤ e then ⟨n * Nat.pow 10 e.toNat, 1⟩ else ⟨n, Nat.pow 10 (-e).toNat⟩

def Fraction.lt (x y : Fraction) : Bool := x.num * y.den < y.num * x.den

def Fraction.le (x y : Fraction) : Bool := x.num * y.den ≤ y.num * x.den

/-- The largest `e` with `10 ^ e ≤ x`, for a positive `x = m · 2 ^ q`. -/
def decimalExponent (m : Nat) (q : Int) (x : Fraction) : Int :=
  let guess := Int.fdiv ((m.log2 + q) * 30103) 100000
  if x.lt (.ofDecimal 1 guess) then guess - 1
  else if (Fraction.ofDecimal 1 (guess + 1)).le x then guess + 1
  else guess

/-- The fractions that read back as `m · 2 ^ q`: the bounds belong to them if `m` is even. -/
structure Interval where
  low : Fraction
  high : Fraction
  closed : Bool

/-- Half-way to both neighbours; below a power of two the neighbour is twice as near. -/
def Interval.around (m : Nat) (q : Int) : Interval :=
  { low := if m = hiddenBit ∧ -1074 < q then .ofBinary (4 * m - 1) (q - 2)
      else .ofBinary (2 * m - 1) (q - 1)
    high := .ofBinary (2 * m + 1) (q - 1)
    closed := m % 2 = 0 }

def Interval.contains (i : Interval) (x : Fraction) : Bool :=
  if i.closed then i.low.le x && x.le i.high else i.low.lt x && x.lt i.high

/-- The point of the grid `10 ^ unit` that reads back as `x` and is nearest to it, if there is one.
Only the two neighbours of `x` on the grid can be it. -/
def gridPoint? (x : Fraction) (i : Interval) (unit : Int) : Option Nat :=
  let scaled : Fraction :=
    if 0 ≤ unit then ⟨x.num, x.den * Nat.pow 10 unit.toNat⟩
    else ⟨x.num * Nat.pow 10 (-unit).toNat, x.den⟩
  let nearest := roundDiv scaled.num scaled.den
  let below := scaled.num / scaled.den
  let other := if nearest = below then below + 1 else below
  if i.contains (.ofDecimal nearest unit) then some nearest
  else if i.contains (.ofDecimal other unit) then some other
  else none

/-- The digits and the exponent of the last one, on the first grid that has a point. -/
def shortestFrom (x : Fraction) (i : Interval) (top : Int) : List Nat → Nat × Int
  | [] => (0, 0)
  | k :: rest =>
      match gridPoint? x i (top - k) with
      | some n => (n, top - k)
      | none => shortestFrom x i top rest

/-- The shortest decimal `n · 10 ^ e` that reads back as the positive double `m · 2 ^ q`. -/
def shortest (m : Nat) (q : Int) : Nat × Int :=
  let x := Fraction.ofBinary m q
  shortestFrom x (.around m q) (decimalExponent m q x) (List.range 18)

/-- Sign and at least two digits of an exponent. -/
def exponentText (e : Int) : String :=
  let digits := toString e.natAbs
  (if e < 0 then "-" else "+") ++ (if digits.length < 2 then "0" ++ digits else digits)

/-- The text of a positive finite double.  Exponents from -4 to 15 are written with a point and at
least one digit on either side of it, all others in scientific form. -/
def positiveText (m : Nat) (q : Int) : String :=
  let (n, e) := shortest m q
  let digits := (toString n).toList
  let point : Int := digits.length + e
  let digits := (digits.reverse.dropWhile (· == '0')).reverse
  if -4 < point ∧ point ≤ 16 then
    if point ≤ 0 then
      "0." ++ String.ofList (List.replicate (-point).toNat '0' ++ digits)
    else
      let whole := digits.take point.toNat
      let fraction := digits.drop point.toNat
      String.ofList (whole ++ List.replicate (point.toNat - whole.length) '0') ++ "." ++
        (if fraction.isEmpty then "0" else String.ofList fraction)
  else
    let fraction := digits.drop 1
    String.ofList (digits.take 1)
      ++ (if fraction.isEmpty then "" else "." ++ String.ofList fraction)
      ++ "e" ++ exponentText (point - 1)

def text (x : Float) : String :=
  match exact x with
  | .nan => "nan"
  | .infinite negative => if negative then "-inf" else "inf"
  | .finite negative m q =>
      (if negative then "-" else "") ++ (if m = 0 then "0.0" else positiveText m q)

end Settings.Double
