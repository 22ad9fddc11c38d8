import Settings.Backoff.Policy
import Settings.Field.Journal

/-!
# Backoff fields

A backoff field is an object field with the times of a policy as children, all with defaults.  A
toggled one starts with a flag that is off by default.  Unless unbounded retries are allowed, the
field has a rule against a maximal elapsed time of zero.
-/

namespace Settings.Backoff

def fieldDescription : String := "Determine time intervals and cut offs for retry attempts."

def unboundedNote : String :=
  "Setting this value to a zeroed duration (such as \x600s\x60) will result in unbounded retries."

def boundedRuleName : String := "bounded_elapsed_time"

def boundedMessage : String :=
  "max_elapsed_time must be greater than zero, unbounded retries are not allowed for this field"

/-- Rejects a maximal elapsed time of zero.  A value that is missing or null passes. -/
def boundedRule : Rule where
  name := boundedRuleName
  check values :=
    match Entries.get? values (.str maxElapsedTimeName) with
    | none | some .null => .ok []
    | some v => (Duration.ofValue v).map fun d => if d = .zero then [boundedMessage] else []

/-- A duration field with a description, a default and examples. -/
def intervalField (name description literal : String) (examples : List String) :
    Except DeclarationError Field := do
  let f ← Field.newScalar .duration (.str name)
  let f ← (f.withDescription description).withDefault (.str literal)
  return f.withExamples (examples.map .str)

def intervalFields (allowUnbounded : Bool) (template : Option Policy) :
    Except DeclarationError (List Field) := do
  let (initial, longest, elapsed) := defaultLiterals template
  let maxElapsedTime ← intervalField maxElapsedTimeName
    ("The maximum overall period of time to spend on retry attempts before the request is " ++
      "aborted.") elapsed ["1m", "1h"]
  let maxElapsedTime :=
    if allowUnbounded then maxElapsedTime.appendDescription unboundedNote else maxElapsedTime
  let initialInterval ← intervalField initialIntervalName
    "The initial period to wait between retry attempts." initial ["50ms", "1s"]
  let maxInterval ← intervalField maxIntervalName
    "The maximum period to wait between retry attempts" longest ["5s", "1m"]
  return [initialInterval, maxInterval, maxElapsedTime]

def enabledField : Except DeclarationError Field := do
  let f ← Field.newScalar .bool (.str enabledName)
  (f.withDescription "Whether retries should be enabled.").withDefault (.bool false)

def childFields (toggled allowUnbounded : Bool) (template : Option Policy) :
    Except DeclarationError (List Field) := do
  let intervals ← intervalFields allowUnbounded template
  if toggled then return (← enabledField) :: intervals else return intervals

/-- Gives an object field the description and, where it applies, the rule of backoff fields. -/
def finish (allowUnbounded : Bool) (f : Field) : Except DeclarationError Field :=
  let f := f.withDescription fieldDescription
  if allowUnbounded then .ok f else f.withRule boundedRule

def newField (toggled : Bool) (name : Value) (allowUnbounded : Bool) (template : Option Policy) :
    Except DeclarationError Field := do
  let children ← childFields toggled allowUnbounded template
  let f ← Field.newObject name (children.map .field)
  finish allowUnbounded f

def declaredRecord (name : Value) (allowUnbounded : Bool) (f : Field) : Log.Record :=
  .debug "backoff"
    (s!"Declared backoff field {name.display} "
      ++ s!"(allow_unbounded={(Value.bool allowUnbounded).shown}, children={Log.namesShown f.childNames})")

def declareField (toggled : Bool) (name : Value) (allowUnbounded : Bool)
    (template : Option Policy) : Journal DeclarationError Field := do
  let children ← Journal.ofExcept (childFields toggled allowUnbounded template)
  let f ← Field.declareObject name (children.map .field)
  let f ← Journal.ofExcept (finish allowUnbounded f)
  Journal.note (declaredRecord name allowUnbounded f)
  return f

end Settings.Backoff
