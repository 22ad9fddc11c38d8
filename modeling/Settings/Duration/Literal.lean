import Settings.Decimal
import Settings.Duration
import Settings.Text.Blank
import Settings.Text.Digit

/-!
# Duration literals

A literal is an optional sign and a body.  The body is a lone zero or a non-empty sequence of
terms, each an amount and a unit: `500ms`, `1m30s`, `-1.5h`.  Amounts are decimal numbers with an
optional fraction, in the digits of any script.  The terms are added up as they are read, with 28
significant digits, and what is finer than a microsecond is cut off.
-/

namespace Settings.Duration

inductive TimeUnit where
  | nanosecond | microsecond | millisecond | second | minute | hour
  deriving DecidableEq, Repr

def TimeUnit.micros : TimeUnit → Decimal
  | .nanosecond => ⟨1, -3⟩
  | .microsecond => ⟨1, 0⟩
  | .millisecond => ⟨1000, 0⟩
  | .second => ⟨1000000, 0⟩
  | .minute => ⟨60000000, 0⟩
  | .hour => ⟨3600000000, 0⟩

/-- Reads a unit at the start of a text.  `ms` is a millisecond, never a minute and a rest; both
code points for the micro sign are accepted. -/
def unitAt? : List Char → Option (TimeUnit × List Char)
  | 'n' :: 's' :: rest => some (.nanosecond, rest)
  | 'u' :: 's' :: rest => some (.microsecond, rest)
  | '\u00B5' :: 's' :: rest => some (.microsecond, rest)
  | '\u03BC' :: 's' :: rest => some (.microsecond, rest)
  | 'm' :: 's' :: rest => some (.millisecond, rest)
  | 's' :: rest => some (.second, rest)
  | 'm' :: rest => some (.minute, rest)
  | 'h' :: rest => some (.hour, rest)
  | _ => none

/-- An amount, by its digits before and after the point, and its unit. -/
structure Term where
  whole : List Char
  fraction : List Char
  unit : TimeUnit
  deriving DecidableEq, Repr

/-- The exact number before the unit. -/
def Term.amount (t : Term) : Decimal :=
  ⟨Text.digitsValue (t.whole ++ t.fraction), -t.fraction.length⟩

/-- Whether the amount is a number: digits only around the point, and at least one of them. -/
def Term.hasNumber (t : Term) : Bool :=
  !(t.whole ++ t.fraction).isEmpty && (t.whole ++ t.fraction).all Text.isDigit

/-- A sum with the term added to it, in microseconds. -/
def Term.addTo? (t : Term) (sum : Decimal) : Option Decimal :=
  (t.amount.mul? t.unit.micros).bind sum.add?

/-- The digits after a point, if the text starts with a point. -/
def fractionAt : List Char → List Char × List Char
  | '.' :: rest => (rest.takeWhile Text.isDigit, rest.dropWhile Text.isDigit)
  | rest => ([], rest)

/-- Reads a term at the start of a text.  There has to be a digit before or after the point. -/
def termAt? (cs : List Char) : Option (Term × List Char) :=
  let whole := cs.takeWhile Text.isDigit
  let (fraction, rest) := fractionAt (cs.dropWhile Text.isDigit)
  if whole.isEmpty && fraction.isEmpty then none
  else (unitAt? rest).map fun (unit, rest) => (⟨whole, fraction, unit⟩, rest)

theorem length_lt_of_unitAt? {cs rest : List Char} {u : TimeUnit}
    (h : unitAt? cs = some (u, rest)) : rest.length < cs.length := by
  unfold unitAt? at h
  split at h <;> cases h <;> simp only [List.length_cons] <;> omega

theorem length_fractionAt_le (cs : List Char) : (fractionAt cs).2.length ≤ cs.length := by
  unfold fractionAt
  split
  · exact Nat.le_succ_of_le (List.dropWhile_suffix _).length_le
  · exact Nat.le_refl _

theorem length_lt_of_termAt? {cs rest : List Char} {t : Term}
    (h : termAt? cs = some (t, rest)) : rest.length < cs.length := by
  simp only [termAt?] at h
  split at h
  · cases h
  · obtain ⟨⟨u, r⟩, hu, hr⟩ := Option.map_eq_some_iff.1 h
    cases hr
    exact Nat.lt_of_lt_of_le (length_lt_of_unitAt? hu)
      (Nat.le_trans (length_fractionAt_le _) (List.dropWhile_suffix _).length_le)

/-- Why a text is not read as a time. -/
inductive LiteralError where
  /-- Nothing but blanks. -/
  | blank
  /-- A sign and nothing behind it. -/
  | signOnly
  /-- Something that is no term. -/
  | badTerm
  /-- An amount that is no number. -/
  | badAmount
  /-- A term or a sum that is too large for a decimal number. -/
  | overflow
  /-- A literal of a time that is no duration. -/
  | outOfRange
  deriving DecidableEq, Repr

/-- Reads a text that is a sequence of terms and nothing else, and adds them to `sum`. -/
def addTerms (sum : Decimal) (cs : List Char) : Except LiteralError Decimal :=
  match cs with
  | [] => .ok sum
  | c :: cs' =>
      match h : termAt? (c :: cs') with
      | none => .error .badTerm
      | some (t, rest) =>
          have : rest.length < cs'.length + 1 := length_lt_of_termAt? h
          if t.hasNumber then
            match t.addTo? sum with
            | none => .error .overflow
            | some sum' => addTerms sum' rest
          else .error .badAmount
termination_by cs.length

/-- Splits off the sign; `true` is a minus. -/
def splitSign : List Char → Bool × List Char
  | '+' :: rest => (false, rest)
  | '-' :: rest => (true, rest)
  | cs => (false, cs)

/-- The microseconds a literal stands for, in range or not. -/
def literalMicros (cs : List Char) : Except LiteralError Int :=
  if cs.isEmpty then .error .blank
  else
    let (negative, body) := splitSign cs
    if body = ['0'] then .ok 0
    else if body.isEmpty then .error .signOnly
    else
      (addTerms .zero body).map fun sum =>
        let n : Int := sum.floor
        if negative then -n else n

/-- Reads a duration literal, with blanks around it. -/
def ofLiteral (s : String) : Except LiteralError Duration :=
  match literalMicros (Text.strip s) with
  | .error e => .error e
  | .ok n =>
      match ofMicros? n with
      | some d => .ok d
      | none => .error .outOfRange

end Settings.Duration
