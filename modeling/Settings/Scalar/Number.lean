import Settings.Double.Nearest
import Settings.Scalar.Integer

/-!
# Values as floats

A float field also takes truth values, integers and texts, which may be given as their UTF-8 octets.
A text is a decimal number with an optional fraction and exponent, or a name of infinity or of
not-a-number in any letter case.  White space around it is ignored, or single underscores inside it.
-/

namespace Settings.Scalar

/-- A decimal number as it is written: sign, digits before and after the point, exponent. -/
structure Numeral where
  negative : Bool
  whole : List Char
  fraction : List Char
  exponent : Int
  deriving DecidableEq, Repr

/-- The nearest double to a numeral. -/
def Numeral.toFloat (x : Numeral) : Float :=
  Double.ofDecimal x.negative ⟨asciiValue (x.whole ++ x.fraction), x.exponent - x.fraction.length⟩

/-- Reads an exponent behind its letter: an optional sign and digits. -/
def exponent? (cs : List Char) : Option Int :=
  let (negative, digits) := splitSign cs
  if digits.isEmpty || !digits.all isAsciiDigit then none
  else some (if negative then -(asciiValue digits : Int) else asciiValue digits)

/-- Reads a numeral without its sign.  There has to be a digit before or after the point. -/
def numeralBody? (negative : Bool) (cs : List Char) : Option Numeral :=
  let whole := cs.takeWhile isAsciiDigit
  let rest := cs.dropWhile isAsciiDigit
  let (fraction, rest) : List Char × List Char := match rest with
    | '.' :: rest => (rest.takeWhile isAsciiDigit, rest.dropWhile isAsciiDigit)
    | rest => ([], rest)
  if whole.isEmpty && fraction.isEmpty then none
  else
    match rest with
    | [] => some ⟨negative, whole, fraction, 0⟩
    | c :: rest =>
        if c = 'e' ∨ c = 'E' then (exponent? rest).map (⟨negative, whole, fraction, ·⟩) else none

/-- Reads a signed number, infinity or not-a-number. -/
def decimalFloat? (cs : List Char) : Option Float :=
  let (negative, body) := splitSign cs
  let word := String.ofList (body.map Char.toLower)
  if word = "inf" ∨ word = "infinity" then some (Double.infinity negative)
  else if word = "nan" then some Double.nan
  else (numeralBody? negative body).map Numeral.toFloat

/-- White space around a text is ignored only if there are no underscores in it. -/
def floatOfText (s : String) : Except Problem Float :=
  match decimalFloat? (Text.trimWhere Text.isWhiteSpace s.toList) with
  | some x => .ok x
  | none =>
      match (withoutUnderscores? s.toList).bind decimalFloat? with
      | some x => .ok x
      | none => .error .numberSyntax

def toNumber : Value → Except Problem Float
  | .float x => .ok x
  | .bool b => .ok (if b then Float.ofBits 0x3FF0000000000000 else Float.ofBits 0)
  | .int n => match Double.ofInt? n with
      | some x => .ok x
      | none => .error .notNumber
  | .str s => floatOfText s
  | .bytes octets => (textOfOctets .numberSyntax octets).bind floatOfText
  | _ => .error .notNumber

@[simp] theorem toNumber_float (x : Float) : toNumber (.float x) = .ok x := rfl

end Settings.Scalar
