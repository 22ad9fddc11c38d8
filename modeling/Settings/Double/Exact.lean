/-!
# The exact value of a double

A double is not a number, an infinity, or a significand times a power of two.  Whatever has to be
exact about doubles is decided on this form, in integer arithmetic.
-/

namespace Settings.Double

/-- What a double stands for; `finite` is `± significand · 2 ^ exponent`. -/
inductive Exact where
  | nan
  | infinite (negative : Bool)
  | finite (negative : Bool) (significand : Nat) (exponent : Int)
  deriving DecidableEq, Repr

/-- The bit in front of the 52 that a normal double keeps of its significand. -/
def hiddenBit : Nat := 0x10000000000000

def signBit : Nat := 0x8000000000000000

/-- The quiet not-a-number. -/
def nan : Float := Float.ofBits 0x7FF8000000000000

def infinity (negative : Bool) : Float :=
  Float.ofBits (if negative then 0xFFF0000000000000 else 0x7FF0000000000000)

/-- The exact value of a double, read off its bits. -/
def exact (x : Float) : Exact :=
  let bits := x.toBits.toNat
  let negative := signBit ≤ bits
  let biased : Nat := bits / hiddenBit % 2048
  let fraction := bits % hiddenBit
  if biased = 2047 then if fraction = 0 then .infinite negative else .nan
  else if biased = 0 then .finite negative fraction (-1074)
  else .finite negative (fraction + hiddenBit) ((biased : Int) - 1075)

/-- Whether a double is a number and not an infinity. -/
def isFinite (x : Float) : Bool :=
  match exact x with
  | .finite .. => true
  | _ => false

/-- The whole number a double stands for, if it is one. -/
def toInt? (x : Float) : Option Int :=
  match exact x with
  | .finite negative m e =>
      let magnitude? :=
        if 0 ≤ e then some (m * Nat.pow 2 e.toNat)
        else if m % Nat.pow 2 (-e).toNat = 0 then some (m / Nat.pow 2 (-e).toNat) else none
      magnitude?.map fun (n : Nat) => if negative then -(n : Int) else n
  | _ => none

end Settings.Double
