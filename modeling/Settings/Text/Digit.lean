/-!
# Decimal digits

Every decimal digit of Unicode 14 (general category Nd) lies in a block of ten consecutive code
points that starts at its zero, so the zeros alone decide which characters are digits and what
they are worth.
-/

namespace Settings.Text

/-- The code points of the zeros of all decimal digit blocks, in ascending order. -/
def zeroDigits : List Nat :=
  [0x30, 0x660, 0x6F0, 0x7C0, 0x966, 0x9E6, 0xA66, 0xAE6, 0xB66, 0xBE6, 0xC66, 0xCE6, 0xD66, 0xDE6,
   0xE50, 0xED0, 0xF20, 0x1040, 0x1090, 0x17E0, 0x1810, 0x1946, 0x19D0, 0x1A80, 0x1A90, 0x1B50,
   0x1BB0, 0x1C40, 0x1C50, 0xA620, 0xA8D0, 0xA900, 0xA9D0, 0xA9F0, 0xAA50, 0xABF0, 0xFF10, 0x104A0,
   0x10D30, 0x11066, 0x110F0, 0x11136, 0x111D0, 0x112F0, 0x11450, 0x114D0, 0x11650, 0x116C0,
   0x11730, 0x118E0, 0x11950, 0x11C50, 0x11D50, 0x11DA0, 0x16A60, 0x16AC0, 0x16B50, 0x1D7CE,
   0x1D7D8, 0x1D7E2, 0x1D7EC, 0x1D7F6, 0x1E140, 0x1E2F0, 0x1E950, 0x1FBF0]

/-- The value of a decimal digit of any script, `none` for every other character. -/
def digitValue? (c : Char) : Option Nat :=
  (zeroDigits.find? fun z => z ≤ c.toNat && c.toNat < z + 10).map (c.toNat - ·)

/-- Whether a character is a decimal digit of some script. -/
def isDigit (c : Char) : Bool :=
  (digitValue? c).isSome

/-- The number with a digit written behind it. -/
def withDigit (n : Nat) (c : Char) : Nat := 10 * n + (digitValue? c).getD 0

/-- The number written by a digit sequence, most significant first; other characters count zero. -/
def digitsValue (cs : List Char) : Nat :=
  valueOfHalves cs.length.log2 cs
where
  /-- The number, with the sequence cut into halves as often as it may be: of a long one this makes
  a few products of large numbers instead of many. -/
  valueOfHalves (cuts : Nat) (cs : List Char) : Nat :=
    match cuts with
    | 0 => cs.foldl withDigit 0
    | cuts + 1 =>
        let behind := cs.length / 2
        let front := cs.length - behind
        valueOfHalves cuts (cs.take front) * Nat.pow 10 behind + valueOfHalves cuts (cs.drop front)

example : digitValue? '7' = some 7 ∧ digitValue? '٣' = some 3 ∧ digitValue? 'x' = none := by decide

end Settings.Text
