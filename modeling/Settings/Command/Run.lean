import Settings.Backoff.Declaration
import Settings.Backoff.Extraction
import Settings.Command.Line
import Settings.File.Reading
import Settings.Overlay.Section
import Settings.Schema.Document

/-!
# Running commands

A command prints a JSON value, or says why there is none.  What lies at the path of the file to be
checked, and the time for log records, are given.
-/

namespace Settings.Command

inductive RunError where
  | declaration (e : DeclarationError)
  | file (e : File.ReadError)
  | notSection (e : SectionError)
  | parse (e : ParseError)
  | extraction (e : Backoff.ExtractionError)
  | document (e : Schema.DocumentError)

def sectionSchema (name : String) (shape : Shape) : Journal DeclarationError Schema := do
  let f ← Backoff.declareField shape.toggled (.str name) shape.allowUnbounded none
  Journal.ofExcept (Schema.ofCandidates [.field f])

def schemaDocument (name : String) (shape : Shape) : Journal RunError Value := do
  let s ← (sectionSchema name shape).mapError .declaration
  Journal.note s.generatedRecord
  let d ← Journal.ofExcept (s.document.mapError .document)
  return d.toValue

def sectionDefaults (toggled : Bool) : Journal RunError Value := do
  let s ← (sectionSchema standardName ⟨toggled, true⟩).mapError .declaration
  Journal.note s.generatedRecord
  let values ← Journal.ofExcept (s.defaults.mapError .parse)
  return (Entries.get? values (.str standardName)).getD .null

/-- Extracts the policy of a section and whether it is enabled, which it is unless it has a flag. -/
def extractSection (a : Accessor) (name : String) (toggled : Bool) :
    Journal RunError (Backoff.Policy × Bool) := do
  let path : List Value := [.str name]
  if toggled then
    let (p, enabled) ←
      Journal.ofExcept ((Backoff.extractToggled a path).result.mapError .extraction)
    Journal.note (Backoff.extractedToggledRecord path p enabled)
    return (p, enabled)
  else
    let p ← Journal.ofExcept ((Backoff.extract a path).result.mapError .extraction)
    Journal.note (Backoff.extractedRecord path p)
    return (p, true)

namespace Check

def segments (c : Check) : List String := pathSegments c.path

def name (c : Check) : String := c.segments.getLastD ""

def parents (c : Check) : List String := c.segments.dropLast

/-- The policy of the section in a file and whether it is enabled. -/
def policy (c : Check) (content : File.Content) : Journal RunError (Backoff.Policy × Bool) := do
  let s ← (sectionSchema c.name c.shape).mapError .declaration
  let entries ← Journal.ofExcept ((File.read (.ofText c.config) content).mapError .file)
  let part ← Journal.ofExcept
    ((sectionAt (.map entries) (c.segments.map .str)).mapError .notSection)
  let a ← (s.parseJournal (.map [(.str c.name, .map part)]) true).mapError .parse
  let found ← extractSection a c.name c.shape.toggled
  Journal.note (.info "cli" s!"Resolved backoff policy at {c.path}")
  return found

def report (c : Check) (p : Backoff.Policy) (enabled : Bool) : Value :=
  .map ([(.str "path", .str c.path), (.str "enabled", .bool enabled),
    (.str "unbounded", .bool p.isUnbounded)]
    ++ p.literals.map fun (name, literal) => (.str name, .str literal))

end Check

def Task.value (content : File.Content) : Task → Journal RunError Value
  | .schema name shape => schemaDocument name shape
  | .defaults toggled => sectionDefaults toggled
  | .check c => do
      let (p, enabled) ← c.policy content
      return c.report p enabled

/-- The names in front of those in an issue's path. -/
def Task.parents : Task → List String
  | .check c => c.parents
  | _ => []

/-- What is said about a failure; nothing about those that are not the configuration's. -/
def RunError.lines? (parents : List String) : RunError → Option (List String)
  | .declaration _ => none
  | .file (.refused r) => some ["❌ " ++ r.message]
  | .file _ => none
  | .notSection e => some ["❌ " ++ e.message]
  | .parse (.issues is) =>
      some ("❌ Backoff section is invalid:" :: is.map fun i =>
        "   " ++ Issue.text { i with path := parents ++ i.path })
  | .parse (.duration cause) => if cause.isRefusal then some ["❌ " ++ cause.message] else none
  | .extraction (.read (.access e)) => some ["❌ " ++ e.message]
  | .extraction _ => none
  | .document _ => none

/-- What a command does: it ends with an exit code and two texts, or it breaks off. -/
inductive Outcome where
  | exited (code : Nat) (output errors : String)
  | brokenOff (e : RunError) (errors : String)

def joinLines (lines : List String) : String := String.join (lines.map (· ++ "\n"))

def Invocation.run (i : Invocation) (content : File.Content) (timestamp : String) : Outcome :=
  let journal := i.task.value content
  let log := i.console.textOfAll timestamp journal.records
  match journal.result with
  | .ok v => .exited 0 (Json.text .indented v ++ "\n") log
  | .error e =>
      match e.lines? i.task.parents with
      | some lines => .exited 1 "" (log ++ joinLines lines)
      | none => .brokenOff e log

end Settings.Command
