import Settings.Duration.Canonical
import Settings.Value

/-!
# Backoff policies

A policy says how long to wait between attempts: the first interval, the factor by which intervals
grow, the longest interval, how far they are spread at random, and how long to go on altogether.
-/

namespace Settings.Backoff

/-- The names of the fields that a policy is read from. -/
def enabledName : String := "enabled"
def initialIntervalName : String := "initial_interval"
def maxIntervalName : String := "max_interval"
def maxElapsedTimeName : String := "max_elapsed_time"

structure Policy where
  initialInterval : Duration
  maxInterval : Duration
  maxElapsedTime : Duration
  multiplier : Float
  randomizationFactor : Float

namespace Policy

/-- Half a second, growing by half to a minute, for a quarter of an hour. -/
def standard : Policy :=
  { initialInterval := ⟨500000, by decide⟩
    maxInterval := ⟨60000000, by decide⟩
    maxElapsedTime := ⟨900000000, by decide⟩
    multiplier := 1.5
    randomizationFactor := 0.5 }

def isUnbounded (p : Policy) : Bool := p.maxElapsedTime == .zero

/-- The three times of a policy as canonical literals, by the names of their fields. -/
def literals (p : Policy) : List (String × String) :=
  [(initialIntervalName, p.initialInterval.canonical),
   (maxIntervalName, p.maxInterval.canonical),
   (maxElapsedTimeName, p.maxElapsedTime.canonical)]

end Policy

/-- The literals that a backoff field declares as defaults, in the order of `Policy.literals`.
Without a template these are half a second, ten seconds and a minute. -/
def defaultLiterals : Option Policy → String × String × String
  | none => ("500ms", "10s", "1m")
  | some p => (p.initialInterval.canonical, p.maxInterval.canonical, p.maxElapsedTime.canonical)

end Settings.Backoff
