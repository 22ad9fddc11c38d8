import Settings.Accessor
import Settings.Log.Record
import Settings.Schema.Lint

/-!
# Schemas

A schema is an ordered collection of fields of different names.  Parsing resolves a configuration
against them, runs the rules and gives an accessor for the values.
-/

namespace Settings

structure Schema where
  fields : List Field

inductive ParseError where
  /-- It has issues. -/
  | issues (is : List Issue)
  /-- A rule came upon a value that is no duration, or a number in a literal became too large. -/
  | duration (cause : DurationError)

def ParseError.message : ParseError → String
  | .issues is => issuesMessage is
  | .duration cause => cause.message

/-- What the issues of a configuration come to.  They are reported, unless a number became too large
at one of the places: that ends it at once. -/
def ParseError.ofIssues (is : List Issue) : ParseError :=
  match is.findSome? Issue.overflow? with
  | some cause => .duration cause
  | none => .issues is

namespace Schema

/-- The schema of some fields, which must be fields of different names. -/
def ofCandidates (candidates : List Candidate) : Except DeclarationError Schema :=
  (Field.checkSiblings .root [] candidates).map Schema.mk

def withField (s : Schema) (c : Candidate) : Except DeclarationError Schema :=
  ofCandidates (s.fields.map .field ++ [c])

def names (s : Schema) : List String := s.fields.map Field.name

def field (name : String) (s : Schema) : Except LookupError Field :=
  match s.fields.find? (·.name == name) with
  | some f => .ok f
  | none => .error (.noField name)

def shown (s : Schema) : String := s!"ConfigSpec({commaSeparated s.names})"

def resolve (s : Schema) (data : Value) : Except ParseError Entries :=
  (Settings.resolve s.fields data).mapError .ofIssues

def findings (s : Schema) (values : Entries) : Except ParseError (List Issue) :=
  (Field.lintAll [] values s.fields).mapError .duration

def lint (s : Schema) (data : Value) : Except ParseError (List Issue) := do
  s.findings (← s.resolve data)

/-- An accessor for the values of a configuration.  Findings stand against it if `lint` is set. -/
def parse (s : Schema) (data : Value) (lint : Bool) : Except ParseError Accessor := do
  let values ← s.resolve data
  if lint then
    let found ← s.findings values
    if !found.isEmpty then throw (.issues found)
  return .ofEntries values

mutual

def withLiterals : Value → Value
  | .duration d => .str d.canonical
  | .list items => .list (withLiteralItems items)
  | .map entries => .map (withLiteralEntries entries)
  | v => v

def withLiteralItems : List Value → List Value
  | [] => []
  | v :: rest => withLiterals v :: withLiteralItems rest

def withLiteralEntries : List (Value × Value) → List (Value × Value)
  | [] => []
  | (k, v) :: rest => (k, withLiterals v) :: withLiteralEntries rest

end

/-- The configuration in which nothing is given, in a form that can be written to a file. -/
def defaults (s : Schema) : Except ParseError Entries :=
  (s.resolve (.map [])).map withLiteralEntries

/-- The record made when a schema is first put to use. -/
def generatedRecord (s : Schema) : Log.Record :=
  .debug "spec" s!"Generated config model for fields {Log.namesShown s.names}"

def findingsRecord (found : List Issue) : Log.Record :=
  .debug "spec" s!"Config lint failed: {Log.namesShown (found.map Issue.text)}"

/-- The records of the first parse with a schema. -/
def parseRecords (s : Schema) (data : Value) (lint : Bool) : List Log.Record :=
  match data with
  | .null | .map _ =>
      s.generatedRecord ::
        (match s.resolve data with
          | .error _ => []
          | .ok values =>
              match lint, s.findings values with
              | true, .ok (i :: is) => [findingsRecord (i :: is)]
              | _, _ => [])
  | _ => []

/-- The first parse with a schema, with its records. -/
def parseJournal (s : Schema) (data : Value) (lint : Bool) : Journal ParseError Accessor :=
  ⟨s.parseRecords data lint, s.parse data lint⟩

end Schema

end Settings
