import Settings.Accessor
import Settings.Backoff.Policy
import Settings.Log.Record

/-!
# Extracting policies

A policy is put together from typed reads at a path.  The reads are part of the result: they are
made in a fixed order and stop at the first one that fails.
-/

namespace Settings.Backoff

inductive Read where
  | duration (path : List Value)
  | bool (path : List Value)

/-- Why no policy can be extracted. -/
inductive ExtractionError where
  /-- A read failed. -/
  | read (e : ReadError)
  /-- The reads succeeded, but the path cannot be written down: a segment is no text. -/
  | segmentNotText (index : Nat) (typeName : String)

def ExtractionError.message : ExtractionError → String
  | .read e => e.message
  | .segmentNotText index t => s!"sequence item {index}: expected str instance, {t} found"

/-- The result of reads, with the reads that were made. -/
structure Traced (α : Type) where
  reads : List Read
  result : Except ExtractionError α

namespace Traced

def bind (x : Traced α) (f : α → Traced β) : Traced β :=
  match x.result with
  | .error e => ⟨x.reads, .error e⟩
  | .ok a => ⟨x.reads ++ (f a).reads, (f a).result⟩

instance : Monad Traced where
  pure a := ⟨[], .ok a⟩
  bind := bind

end Traced

def readDuration (a : Accessor) (path : List Value) : Traced Duration :=
  ⟨[.duration path], (a.duration path).mapError .read⟩

def readBool (a : Accessor) (path : List Value) : Traced Bool :=
  ⟨[.bool path], (a.bool path).mapError fun e => .read (.access e)⟩

/-- The position and the type of the first segment that is no text. -/
def nonText? (i : Nat) : List Value → Option (Nat × String)
  | [] => none
  | .str _ :: rest => nonText? (i + 1) rest
  | v :: _ => some (i, v.fullTypeName)

/-- The path in writing, for which all segments have to be texts. -/
def checkWritable (path : List Value) : Traced Unit :=
  match nonText? 0 path with
  | none => ⟨[], .ok ()⟩
  | some (i, t) => ⟨[], .error (.segmentNotText i t)⟩

/-- Reads the three times of a policy; all else is as in the standard policy. -/
def readTimes (a : Accessor) (path : List Value) : Traced Policy := do
  let initialInterval ← readDuration a (path ++ [.str initialIntervalName])
  let maxInterval ← readDuration a (path ++ [.str maxIntervalName])
  let maxElapsedTime ← readDuration a (path ++ [.str maxElapsedTimeName])
  return { Policy.standard with initialInterval, maxInterval, maxElapsedTime }

def extract (a : Accessor) (path : List Value) : Traced Policy := do
  let p ← readTimes a path
  checkWritable path
  return p

/-- Extracts the policy at a path and whether it is enabled, which is read first. -/
def extractToggled (a : Accessor) (path : List Value) : Traced (Policy × Bool) := do
  let enabled ← readBool a (path ++ [.str enabledName])
  let p ← readTimes a path
  checkWritable path
  return (p, enabled)

def timesShown (p : Policy) : String :=
  (Value.map (p.literals.map fun (name, literal) => (.str name, .str literal))).shown

def extractedRecord (path : List Value) (p : Policy) : Log.Record :=
  let place := ".".intercalate (path.map Value.display)
  .debug "backoff"
    s!"Resolved backoff policy at {place}: {timesShown p}"

def extractedToggledRecord (path : List Value) (p : Policy) (enabled : Bool) : Log.Record :=
  let place := ".".intercalate (path.map Value.display)
  .debug "backoff"
    (s!"Resolved toggled backoff policy at {place}: "
      ++ s!"enabled={(Value.bool enabled).shown} {timesShown p}")

end Settings.Backoff
