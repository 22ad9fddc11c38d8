import Settings.Backoff.Policy
import Settings.Double.Nearest

/-!
# Waiting between attempts

After `n` earlier attempts the interval is the first one times the multiplier to the power of `n`,
and never more than the longest.  A power that overflows gives the longest interval right away.  The
wait is drawn from around the interval.  Programs compute with doubles, but an interval is defined
for any numbers with powers that may overflow.
-/

namespace Settings.Backoff

/-- The parameters of a wait, times in seconds. -/
structure Wait (α : Type) where
  initial : α
  multiplier : α
  maxInterval : α
  randomizationFactor : α

inductive Stop where
  | never
  | afterSeconds (seconds : Float)

/-- What numbers have to offer for intervals to be computed with them. -/
class Arithmetic (α : Type) where
  ofMillionths : Int → α
  ofDouble : Float → α
  /-- A power with a whole exponent, `none` if it overflows. -/
  power? : α → Int → Option α

/-- A power of a double overflows if it is infinite although its base is not, and also if there is
no double near the exponent. -/
def doublePower? (base : Float) (exponent : Int) : Option Float :=
  match Double.ofInt? exponent with
  | none => none
  | some n =>
      let power := Float.pow base n
      match Double.exact base, Double.exact power with
      | .finite .., .infinite _ => none
      | _, _ => some power

instance : Arithmetic Float where
  ofMillionths := Double.ofMillionths
  ofDouble := id
  power? := doublePower?

def seconds (α : Type) [Arithmetic α] (d : Duration) : α := Arithmetic.ofMillionths d.micros

namespace Policy

def waitIn (α : Type) [Arithmetic α] (p : Policy) : Wait α :=
  { initial := seconds α p.initialInterval
    multiplier := Arithmetic.ofDouble p.multiplier
    maxInterval := seconds α p.maxInterval
    randomizationFactor := Arithmetic.ofDouble p.randomizationFactor }

def wait (p : Policy) : Wait Float := p.waitIn Float

def stop (p : Policy) : Stop :=
  if p.isUnbounded then .never else .afterSeconds (seconds Float p.maxElapsedTime)

end Policy

namespace Wait

/-- The interval before an attempt, in seconds. -/
def interval [Arithmetic α] [Mul α] [LT α] [DecidableLT α] (w : Wait α) (attempt : Int) : α :=
  match Arithmetic.power? w.multiplier (max (attempt - 1) 0) with
  | none => w.maxInterval
  | some power =>
      let x := w.initial * power
      if w.maxInterval < x then w.maxInterval else x

/-- The bounds between which the wait is drawn; `none` if it is the interval itself. -/
def bounds? (w : Wait Float) (attempt : Int) : Option (Float × Float) :=
  let interval := w.interval attempt
  if w.randomizationFactor ≤ Float.ofBits 0 then none
  else
    let delta := interval * w.randomizationFactor
    some (interval - delta, interval + delta)

end Wait

end Settings.Backoff
