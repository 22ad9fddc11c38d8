import Settings.Double.Shortest

/-!
# Doubles with a chosen number of places

Texts of `m · 2 ^ q` rounded from the exact value, ties to even: with a number of places behind the
point, or with a number of significant digits.
-/

namespace Settings.Double

/-- Puts a point between the whole part and the fraction; without a fraction only if `keep`. -/
def withPoint (keep : Bool) (whole fraction : List Char) : List Char :=
  if fraction.isEmpty && !keep then whole else whole ++ '.' :: fraction

/-- A number of places behind the point. -/
def fixedText (keep : Bool) (m : Nat) (q : Int) (places : Nat) : List Char :=
  let x := Fraction.ofBinary m q
  let digits := (toString (roundDiv (x.num * Nat.pow 10 places) x.den)).toList
  let digits := List.replicate (places + 1 - digits.length) '0' ++ digits
  let front := digits.length - places
  withPoint keep (digits.take front) (digits.drop front)

/-- A positive number of significant digits, and the decimal exponent of the first of them. -/
def significantDigits (m : Nat) (q : Int) (count : Nat) : List Char × Int :=
  if m = 0 then (List.replicate count '0', 0)
  else
    let x := Fraction.ofBinary m q
    let e := decimalExponent m q x
    let unit := e + 1 - count
    let n :=
      if 0 ≤ unit then roundDiv x.num (x.den * Nat.pow 10 unit.toNat)
      else roundDiv (x.num * Nat.pow 10 (-unit).toNat) x.den
    let digits := (toString n).toList
    if count < digits.length then (digits.dropLast, e + 1) else (digits, e)

def scientificForm (keep : Bool) (digits : List Char) (e : Int) : List Char :=
  withPoint keep (digits.take 1) (digits.drop 1) ++ 'e' :: (exponentText e).toList

/-- Scientific form with a number of places behind the point. -/
def scientificText (keep : Bool) (m : Nat) (q : Int) (places : Nat) : List Char :=
  let (digits, e) := significantDigits m q (places + 1)
  scientificForm keep digits e

/-- Without zeros at the end. -/
def dropEndZeros (cs : List Char) : List Char := (cs.reverse.dropWhile (· == '0')).reverse

/-- A number of significant digits, in scientific form for exponents below -4 and for those that
need more digits than there are.  Zeros at the end are left out unless `keep`. -/
def generalText (keep : Bool) (m : Nat) (q : Int) (count : Nat) : List Char :=
  let count := max count 1
  let (digits, e) := significantDigits m q count
  let trim (cs : List Char) : List Char := if keep then cs else dropEndZeros cs
  if -4 ≤ e ∧ e < count then
    if e < 0 then withPoint keep ['0'] (List.replicate (-e - 1).toNat '0' ++ trim digits)
    else
      let front := e.toNat + 1
      withPoint keep (digits.take front) (trim (digits.drop front))
  else scientificForm keep (digits.take 1 ++ trim (digits.drop 1)) e

end Settings.Double
