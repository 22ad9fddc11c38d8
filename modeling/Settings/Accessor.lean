import Settings.Double.Nearest
import Settings.Duration.Reading
import Settings.Issue
import Settings.Value.Order

/-!
# Reading values by path

An accessor is a place in a configuration: the path that led there and the entries found.  Values
are read by the rest of the path and come out with the type asked for.  A failed read names the
full path from the root.
-/

namespace Settings

/-- Why there is no value of the type asked for. -/
inductive AccessError.Reason where
  | parentNotObject
  | notFound
  | notSet
  | notObject
  | duration (cause : DurationError)
  | wrongType (expected found : String)
  /-- A reason given in words. -/
  | other (text : String)
  deriving DecidableEq, Repr

def AccessError.Reason.message : AccessError.Reason → String
  | .parentNotObject => "parent value is not an object"
  | .notFound => "field was not found in the config"
  | .notSet => "field is not set"
  | .notObject => "expected an object"
  | .duration cause => cause.message
  | .wrongType expected found => s!"expected {expected} value, got {found}"
  | .other text => text

structure AccessError where
  path : List Value
  reason : AccessError.Reason

def AccessError.message (e : AccessError) : String :=
  s!"field '{dottedPath e.path}': {e.reason.message}"

/-- What a read can end in besides a value. -/
inductive ReadError where
  | access (e : AccessError)
  /-- There is no double near the integer. -/
  | integerTooLarge
  /-- A number in a duration literal became too large. -/
  | overflow (cause : DurationError)

def ReadError.message : ReadError → String
  | .access e => e.message
  | .integerTooLarge => "int too large to convert to float"
  | .overflow cause => cause.message

structure Accessor where
  path : List Value
  entries : Entries

namespace Accessor

def ofEntries (entries : Entries) : Accessor := ⟨[], entries⟩

/-- An accessor reads entries only; another value is refused by the name of its type. -/
def ofValue? (path : List Value) : Value → Except String Accessor
  | .map entries => .ok ⟨path, entries⟩
  | v => .error s!"ParsedConfig expects a mapping, got {v.typeName}"

/-- Descends from `v`; `done` are the segments behind, nearest last. -/
def descend (base done : List Value) (v : Value) : List Value → Except AccessError Value
  | [] => .ok v
  | segment :: rest =>
      match v with
      | .map entries =>
          match Entries.get? entries segment with
          | some w => descend base (done ++ [segment]) w rest
          | none => .error ⟨base ++ done ++ segment :: rest, .notFound⟩
      | _ => .error ⟨base ++ done ++ [segment], .parentNotObject⟩

/-- The value at a path, null included. -/
def lookup (a : Accessor) (path : List Value) : Except AccessError Value :=
  descend a.path [] (.map a.entries) path

def fail (a : Accessor) (path : List Value) (reason : AccessError.Reason) : AccessError :=
  ⟨a.path ++ path, reason⟩

/-- The value at a path, which must not be null. -/
def lookupSet (a : Accessor) (path : List Value) : Except AccessError Value :=
  match a.lookup path with
  | .error e => .error e
  | .ok .null => .error (a.fail path .notSet)
  | .ok v => .ok v

def contains (a : Accessor) (path : List Value) : Bool :=
  (a.lookup path).isOk

/-- The value at a path, whatever its type. -/
def raw (a : Accessor) (path : List Value) : Except AccessError Value :=
  a.lookup path

def toValue (a : Accessor) : Value := .map a.entries

def enter (a : Accessor) (path : List Value) : Except AccessError Accessor := do
  match ← a.lookupSet path with
  | .map entries => return ⟨a.path ++ path, entries⟩
  | _ => throw (a.fail path .notObject)

/-- Reads a duration, or a text that is a duration literal. -/
def duration (a : Accessor) (path : List Value) : Except ReadError Duration := do
  let v ← (a.lookupSet path).mapError .access
  match Duration.ofValue v with
  | .ok d => return d
  | .error e =>
      throw (if e.isRefusal then .access (a.fail path (.duration e)) else .overflow e)

def bool (a : Accessor) (path : List Value) : Except AccessError Bool := do
  match ← a.lookupSet path with
  | .bool b => return b
  | v => throw (a.fail path (.wrongType "a bool" v.typeName))

def string (a : Accessor) (path : List Value) : Except AccessError String := do
  match ← a.lookupSet path with
  | .str s => return s
  | v => throw (a.fail path (.wrongType "a string" v.typeName))

def int (a : Accessor) (path : List Value) : Except AccessError Int := do
  match ← a.lookupSet path with
  | .int n => return n
  | v => throw (a.fail path (.wrongType "an int" v.typeName))

/-- Reads a float or an integer.  The integer has to be in the range of doubles. -/
def float (a : Accessor) (path : List Value) : Except ReadError Float :=
  match a.lookupSet path with
  | .error e => .error (.access e)
  | .ok (.float x) => .ok x
  | .ok (.int n) => match Double.ofInt? n with
      | some x => .ok x
      | none => .error .integerTooLarge
  | .ok v => .error (.access (a.fail path (.wrongType "a float" v.typeName)))

/-- The path between parentheses, with a comma behind a lone segment. -/
def pathShown (path : List Value) : String :=
  match path with
  | [v] => s!"({v.shown},)"
  | vs => s!"({commaSeparated (vs.map Value.shown)})"

/-- The accessor in one line: its path and its keys in ascending order. -/
def shown (a : Accessor) : Except OrderError String :=
  (Value.sorted (a.entries.map Prod.fst)).map fun keys =>
    s!"ParsedConfig(path={pathShown a.path}, keys={(Value.list keys).shown})"

end Accessor

end Settings
