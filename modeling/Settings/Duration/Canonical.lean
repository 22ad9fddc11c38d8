import Settings.Duration

/-!
# Canonical duration literals

Each duration has one canonical literal.  Below a millisecond it counts microseconds, below a
second milliseconds; from there on it has hours, minutes and seconds, starting with the largest
unit that is not zero.  The last number may have a fraction, without trailing zeros.
-/

namespace Settings.Duration

/-- `n / 10 ^ places` in decimal, with the fraction's trailing zeros left out. -/
def fixedText (n places : Nat) : List Char :=
  let whole := Nat.toDigits 10 (n / Nat.pow 10 places)
  let rest := n % Nat.pow 10 places
  if rest = 0 then whole
  else
    let digits := Nat.toDigits 10 rest
    let padded := List.replicate (places - digits.length) '0' ++ digits
    whole ++ '.' :: (padded.reverse.dropWhile (· == '0')).reverse

def magnitudeText (n : Nat) : List Char :=
  if n < 1000 then Nat.toDigits 10 n ++ ['u', 's']
  else if n < 1000000 then fixedText n 3 ++ ['m', 's']
  else
    let hours := n / 3600000000
    let minutes := n % 3600000000 / 60000000
    let seconds := fixedText (n % 60000000) 6 ++ ['s']
    if hours ≠ 0 then
      Nat.toDigits 10 hours ++ 'h' :: Nat.toDigits 10 minutes ++ 'm' :: seconds
    else if minutes ≠ 0 then Nat.toDigits 10 minutes ++ 'm' :: seconds
    else seconds

def canonical (d : Duration) : String :=
  if d.micros = 0 then "0s"
  else String.ofList ((if d.micros < 0 then ['-'] else []) ++ magnitudeText d.micros.natAbs)

end Settings.Duration
