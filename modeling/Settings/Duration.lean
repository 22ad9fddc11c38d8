/-!
# Durations

A duration is a whole number of microseconds.  Its day part (rounded down) has at most nine digits,
which gives the type its range; the range is part of the type.
-/

namespace Settings

def microsPerDay : Int := 86400000000

/-- The largest number of whole days, in either direction. -/
def maxDays : Int := 999999999

/-- The shortest representable time, in microseconds. -/
def minMicros : Int := -maxDays * microsPerDay

/-- The longest representable time, in microseconds. -/
def maxMicros : Int := (maxDays + 1) * microsPerDay - 1

def InRange (micros : Int) : Prop := minMicros ≤ micros ∧ micros ≤ maxMicros

instance (micros : Int) : Decidable (InRange micros) :=
  inferInstanceAs (Decidable (minMicros ≤ micros ∧ micros ≤ maxMicros))

/-- A span of time, positive or negative. -/
structure Duration where
  micros : Int
  inRange : InRange micros
  deriving DecidableEq

/-- A number of microseconds outside the range, with the limit it breaks. -/
inductive RangeError where
  | tooManyDays (days : Int)
  | dayCountOverflow
  deriving DecidableEq, Repr

def RangeError.message : RangeError → String
  | .tooManyDays days => s!"days={days}; must have magnitude <= 999999999"
  | .dayCountOverflow => "Python int too large to convert to C int"

namespace Duration

/-- The duration of a number of microseconds, if there is one. -/
def ofMicros? (micros : Int) : Option Duration :=
  if h : InRange micros then some ⟨micros, h⟩ else none

/-- The duration of a number of microseconds.  Day counts of more than 32 bits are told apart from
the ones that are merely too large. -/
def ofMicros (micros : Int) : Except RangeError Duration :=
  match ofMicros? micros with
  | some d => .ok d
  | none =>
      let days := micros.fdiv microsPerDay
      .error (if -0x80000000 ≤ days ∧ days < 0x80000000 then .tooManyDays days
        else .dayCountOverflow)

/-- No time at all. -/
def zero : Duration := ⟨0, by decide⟩

/-- Whole days, rounded down. -/
def days (d : Duration) : Int := d.micros.fdiv microsPerDay

/-- The seconds beyond the whole days. -/
def seconds (d : Duration) : Int := (d.micros.fmod microsPerDay).fdiv 1000000

/-- The microseconds beyond the whole seconds. -/
def microseconds (d : Duration) : Int := d.micros.fmod 1000000

@[ext] theorem ext {d e : Duration} (h : d.micros = e.micros) : d = e := by
  cases d; cases e; cases h; rfl

@[simp] theorem ofMicros?_micros (d : Duration) : ofMicros? d.micros = some d :=
  dif_pos d.inRange

theorem ofMicros?_eq_some_iff {n : Int} {d : Duration} : ofMicros? n = some d ↔ n = d.micros := by
  constructor
  · intro h
    unfold ofMicros? at h
    split at h
    · cases h; rfl
    · cases h
  · rintro rfl
    exact ofMicros?_micros d

end Duration

end Settings
