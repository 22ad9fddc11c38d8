import Settings.Duration.Canonical
import Settings.Duration.Literal
import Settings.Value

/-!
# Values as durations

A duration is read from a value that is one already or from a text that is a literal.  The causes
of failure quote the text as it was given, blanks included.  A number that becomes too large is no
complaint about the value: it is not for those to answer who report values that are refused.
-/

namespace Settings

inductive DurationError where
  | notText (typeName : String)
  | literal (source : String) (cause : Duration.LiteralError)
  deriving DecidableEq, Repr

/-- Whether a value is refused, rather than a number having become too large. -/
def DurationError.isRefusal : DurationError → Bool
  | .literal _ .overflow => false
  | _ => true

def DurationError.message : DurationError → String
  | .notText t => s!"expected a duration string such as '500ms', got {t}"
  | .literal _ .blank => "duration cannot be empty"
  | .literal source .signOnly | .literal source .badAmount => s!"invalid duration '{source}'"
  | .literal source .badTerm =>
      s!"invalid duration '{source}'. Use formats like 500ms, 10s, or 1m30s."
  | .literal _ .overflow => "[<class 'decimal.Overflow'>]"
  | .literal source .outOfRange => s!"duration '{source}' is out of range"

namespace Duration

def ofText (s : String) : Except DurationError Duration :=
  (ofLiteral s).mapError (.literal s)

def ofValue : Value → Except DurationError Duration
  | .duration d => .ok d
  | .str s => ofText s
  | v => .error (.notText v.typeName)

/-- Whether a value is a text that reads as a duration. -/
def isLiteral : Value → Except DurationError Bool
  | .str s =>
      match ofText s with
      | .ok _ => .ok true
      | .error e => if e.isRefusal then .ok false else .error e
  | _ => .ok false

@[simp] theorem ofValue_duration (d : Duration) : ofValue (.duration d) = .ok d := rfl

@[simp] theorem ofValue_str (s : String) : ofValue (.str s) = ofText s := rfl

theorem isLiteral_eq_true_iff {v : Value} :
    isLiteral v = .ok true ↔ ∃ s d, v = .str s ∧ ofText s = .ok d := by
  constructor
  · intro h
    cases v <;> simp only [isLiteral, reduceCtorEq, Except.ok.injEq] at h
    next s =>
      cases hs : ofText s with
      | ok d => exact ⟨s, d, rfl, hs⟩
      | error e =>
          rw [hs] at h
          dsimp only at h
          split at h <;> simp at h
  · rintro ⟨s, d, rfl, hs⟩
    simp only [isLiteral, hs]

end Duration

end Settings
