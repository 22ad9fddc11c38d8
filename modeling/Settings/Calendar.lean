/-!
# Dates and moments

Days of the proleptic Gregorian calendar, years 1 to 9999, and moments of such days, with or without
an offset from universal time.
-/

namespace Settings

structure Date where
  year : Nat
  month : Nat
  day : Nat
  deriving DecidableEq, Repr

/-- A moment of a day; the offset from universal time is in minutes. -/
structure Moment where
  date : Date
  hour : Nat
  minute : Nat
  second : Nat
  microsecond : Nat
  offset : Option Int
  deriving DecidableEq, Repr

/-- A number in decimal, filled up with zeros to a width. -/
def padded (width n : Nat) : String :=
  let digits := toString n
  String.ofList (List.replicate (width - digits.length) '0') ++ digits

def isLeapYear (year : Nat) : Bool :=
  year % 4 == 0 && (year % 100 != 0 || year % 400 == 0)

def daysInMonth (year month : Nat) : Nat :=
  if month = 2 then (if isLeapYear year then 29 else 28)
  else if month = 4 ∨ month = 6 ∨ month = 9 ∨ month = 11 then 30 else 31

/-- The number of days from the first of January of year 1. -/
def Date.ordinal (d : Date) : Nat :=
  let y := d.year - 1
  y * 365 + y / 4 - y / 100 + y / 400
    + (List.range (d.month - 1)).foldl (fun days m => days + daysInMonth d.year (m + 1)) d.day

/-- The month and the day of month of the `n`-th day from the start of a month, from zero. -/
def monthAndDay (year month n : Nat) : Nat → Nat × Nat
  | 0 => (month, n + 1)
  | fuel + 1 =>
      let days := daysInMonth year month
      if n < days then (month, n + 1) else monthAndDay year (month + 1) (n - days) fuel

def Date.ofOrdinal (ordinal : Nat) : Date :=
  let n := ordinal - 1
  let era := n / 146097
  let n := n % 146097
  let century := min (n / 36524) 3
  let n := n - century * 36524
  let cycle := n / 1461
  let n := n % 1461
  let rest := min (n / 365) 3
  let year := era * 400 + century * 100 + cycle * 4 + rest + 1
  let (month, day) := monthAndDay year 1 (n - rest * 365) 11
  { year, month, day }

example : (Date.mk 2024 2 29).ordinal = 738945 ∧ Date.ofOrdinal 738945 = ⟨2024, 2, 29⟩ := by
  decide
example : (Date.mk 2000 12 31).ordinal = 730485 ∧ Date.ofOrdinal 730485 = ⟨2000, 12, 31⟩ := by
  decide

/-- Year, month and day, separated by hyphens. -/
def Date.text (d : Date) : String :=
  s!"{padded 4 d.year}-{padded 2 d.month}-{padded 2 d.day}"

/-- An offset from universal time, as sign, hours and minutes. -/
def offsetText (minutes : Int) : String :=
  let n := minutes.natAbs
  let sign := if minutes < 0 then "-" else "+"
  s!"{sign}{padded 2 (n / 60)}:{padded 2 (n % 60)}"

/-- The day and the time of a moment with `separator` between them. -/
def Moment.text (separator : String) (t : Moment) : String :=
  s!"{t.date.text}{separator}{padded 2 t.hour}:{padded 2 t.minute}:{padded 2 t.second}"
    ++ (if t.microsecond = 0 then "" else "." ++ padded 6 t.microsecond)
    ++ (t.offset.elim "" offsetText)

/-- The moment that lies so many microseconds behind the start of 1970, in universal time. -/
def Moment.ofUnixMicros (n : Nat) : Moment :=
  let s := n / 1000000
  { date := .ofOrdinal (s / 86400 + 719163)
    hour := s / 3600 % 24
    minute := s / 60 % 60
    second := s % 60
    microsecond := n % 1000000
    offset := some 0 }

/-- Microseconds of universal time since the first of January of year 1, for a moment with an
offset; without one, of the moment's own clock. -/
def Moment.instant (t : Moment) : Int :=
  (((t.date.ordinal * 24 + t.hour) * 60 + t.minute : Nat) - t.offset.getD 0) * 60000000
    + (t.second * 1000000 + t.microsecond : Nat)

/-- Whether two moments are the same point in time.  One with an offset and one without are never
the same. -/
def Moment.same (t u : Moment) : Bool :=
  t.offset.isSome == u.offset.isSome && t.instant == u.instant

end Settings
