import Settings.Double.Shortest
import Settings.Text.Quoted
import Settings.Value

/-!
# The text of a value

`Value.shown` is how a message quotes a value, with texts between quotes and types spelled out
where the value alone would be ambiguous.  `Value.display` is the value as plain text.
-/

namespace Settings

/-- The parts of a list with a comma between neighbours. -/
def commaSeparated (parts : List String) : String :=
  ", ".intercalate parts

/-- A duration as days, seconds and microseconds, leaving out what is zero. -/
def Duration.shown (d : Duration) : String :=
  let part (name : String) (n : Int) : List String := if n = 0 then [] else [s!"{name}={n}"]
  let parts := part "days" d.days ++ part "seconds" d.seconds ++ part "microseconds" d.microseconds
  let numbers := if parts.isEmpty then "0" else commaSeparated parts
  s!"datetime.timedelta({numbers})"

def Duration.clock (d : Duration) : String :=
  let s := d.seconds.toNat
  let days := d.days
  (if days = 0 then "" else if days.natAbs = 1 then s!"{days} day, " else s!"{days} days, ")
    ++ s!"{s / 3600}:{padded 2 (s / 60 % 60)}:{padded 2 (s % 60)}"
    ++ (if d.microseconds = 0 then "" else "." ++ padded 6 d.microseconds.toNat)

def Date.shown (d : Date) : String :=
  s!"datetime.date({d.year}, {d.month}, {d.day})"

def offsetShown (minutes : Int) : String :=
  if minutes = 0 then "datetime.timezone.utc"
  else
    let d := (Duration.ofMicros? (minutes * 60000000)).getD .zero
    s!"datetime.timezone({d.shown})"

/-- A moment by its numbers; seconds and microseconds are left out when they end in zeros. -/
def Moment.shown (t : Moment) : String :=
  let tail :=
    if t.microsecond ≠ 0 then [t.second, t.microsecond]
    else if t.second ≠ 0 then [t.second] else []
  let numbers := [t.date.year, t.date.month, t.date.day, t.hour, t.minute] ++ tail
  let zone := t.offset.elim [] fun o => [s!"tzinfo={offsetShown o}"]
  s!"datetime.datetime({commaSeparated (numbers.map toString ++ zone)})"

/-- How one octet is written between the quotes `q`. -/
def octetShown (q : Char) (b : UInt8) : List Char :=
  if b.toNat < 0x7F then Text.quoteChar q (Char.ofNat b.toNat)
  else '\\' :: 'x' :: Text.hex 2 b.toNat

def octetsShown (octets : List UInt8) : String :=
  let q := Text.quoteFor (octets.map fun b => Char.ofNat b.toNat)
  String.ofList ('b' :: q :: (octets.flatMap (octetShown q) ++ [q]))

namespace Value

mutual

def shown : Value → String
  | null => "None"
  | bool b => if b then "True" else "False"
  | int n => toString n
  | float x => Double.text x
  | str s => Text.quote s
  | duration d => d.shown
  | list items => "[" ++ commaSeparated (shownItems items) ++ "]"
  | map entries => "\x7b" ++ commaSeparated (shownEntries entries) ++ "\x7d"
  | date d => d.shown
  | moment t => t.shown
  | bytes octets => octetsShown octets
  | set [] => "set()"
  | set members => "\x7b" ++ commaSeparated (shownItems members) ++ "\x7d"

def shownItems : List Value → List String
  | [] => []
  | x :: xs => shown x :: shownItems xs

def shownEntries : List (Value × Value) → List String
  | [] => []
  | (k, x) :: xs => (shown k ++ ": " ++ shown x) :: shownEntries xs

end

def display : Value → String
  | str s => s
  | duration d => d.clock
  | date d => d.text
  | moment t => t.text " "
  | v => v.shown

@[simp] theorem display_str (s : String) : (str s).display = s := rfl

end Value

end Settings
