import Settings.Duration.Reading
import Settings.Value.Text

/-!
# Issues

An issue is one thing that is wrong with a configuration: a value the schema does not accept, or
what a rule reports.  It carries the path from the root to the place.
-/

namespace Settings

/-- The segments of a path with a point between neighbours; the root has a name of its own. -/
def dottedPath (path : List Value) : String :=
  let text := ".".intercalate (path.map Value.display)
  if text.isEmpty then "<root>" else text

/-- Why the schema does not accept a value. -/
inductive Problem where
  | missing
  | unknownKey
  | keyNotText
  | notText
  /-- Octets that are not UTF-8 in place of a text. -/
  | notUnicode
  | notTruthValue
  | notInteger
  | integerSyntax
  | integerSize
  | fractional
  | notFinite
  | notNumber
  | numberSyntax
  | duration (cause : DurationError)
  | notObject (model : String)
  | rootNotObject (typeName : String)
  deriving DecidableEq, Repr

def Problem.message : Problem → String
  | .missing => "Field required"
  | .unknownKey => "Extra inputs are not permitted"
  | .keyNotText => "Keys should be strings"
  | .notText => "Input should be a valid string"
  | .notUnicode =>
      "Input should be a valid string, unable to parse raw data as a unicode string"
  | .notTruthValue => "Input should be a valid boolean"
  | .notInteger => "Input should be a valid integer"
  | .integerSyntax => "Input should be a valid integer, unable to parse string as an integer"
  | .integerSize => "Unable to parse input string as an integer, exceeded maximum size"
  | .fractional => "Input should be a valid integer, got a number with a fractional part"
  | .notFinite => "Input should be a finite number"
  | .notNumber => "Input should be a valid number"
  | .numberSyntax => "Input should be a valid number, unable to parse string as a number"
  | .duration cause => "Value error, " ++ cause.message
  | .notObject model => "Input should be a valid dictionary or instance of " ++ model
  | .rootNotObject t => "config root must be an object, got " ++ t

inductive Issue.Cause where
  /-- The schema. -/
  | problem (p : Problem)
  /-- A rule, by its name, with one of its messages. -/
  | finding (rule message : String)
  deriving DecidableEq, Repr

/-- One thing that is wrong, and where. -/
structure Issue where
  path : List String
  cause : Issue.Cause
  deriving DecidableEq, Repr

namespace Issue

def message (i : Issue) : String :=
  match i.cause with
  | .problem p => p.message
  | .finding _ m => m

def rule (i : Issue) : String :=
  match i.cause with
  | .problem _ => "validation"
  | .finding r _ => r

def location (i : Issue) : String :=
  dottedPath (i.path.map .str)

def text (i : Issue) : String :=
  s!"{i.location}: {i.message}"

/-- The literal whose number became too large, if that is what the issue is about. -/
def overflow? (i : Issue) : Option DurationError :=
  match i.cause with
  | .problem (.duration cause) => if cause.isRefusal then none else some cause
  | _ => none

def under (segment : String) (i : Issue) : Issue :=
  { i with path := segment :: i.path }

@[simp] theorem under_path (segment : String) (i : Issue) :
    (i.under segment).path = segment :: i.path := rfl

@[simp] theorem under_cause (segment : String) (i : Issue) :
    (i.under segment).cause = i.cause := rfl

end Issue

def issuesMessage (issues : List Issue) : String :=
  s!"config validation failed with {issues.length} issue(s):\n"
    ++ "\n".intercalate (issues.map fun i => "  - " ++ i.text)

end Settings
