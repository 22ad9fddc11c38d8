import Settings.File.Reading
import Settings.Overlay.Environment
import Settings.Overlay.Merge
import Settings.Schema

/-!
# Loading configurations

A configuration comes from a file, the environment and overrides, each of which takes precedence
over those before it.  The result is parsed against a schema.
-/

namespace Settings

/-- A configuration file: its path as it was given, and what lies there. -/
structure Source where
  path : String
  content : File.Content

structure Origin where
  file : Option Source := none
  /-- What the names of variables start with; an empty text leaves the environment out. -/
  envPrefix : String := ""
  env : List Variable := []
  overrides : Value := .null

/-- Why no configuration can be loaded. -/
inductive LoadError where
  | file (e : File.ReadError)
  | parse (e : ParseError)

namespace Source

def read (s : Source) : Except File.ReadError LinkedEntries :=
  File.readLinked (.ofText s.path) s.content

/-- Reads a file.  A file that is refused is logged, and so is one that has been read. -/
def load (s : Source) : Journal File.ReadError LinkedEntries :=
  match s.read with
  | .ok entries => ⟨[.info "loader" s!"Loaded config from {s.path}"], .ok entries⟩
  | .error (.refused r) =>
      ⟨[.error "loader" s!"Failed to load config: {r.message}"], .error (.refused r)⟩
  | .error e => ⟨[], .error e⟩

@[simp] theorem result_load (s : Source) : s.load.result = s.read := by
  unfold load
  split <;> simp_all

end Source

namespace Origin

/-- The entries of the file; without a file there are none. -/
def fileEntries (o : Origin) : Except File.ReadError LinkedEntries :=
  match o.file with
  | none => .ok []
  | some s => s.read

def withEnvironment (o : Origin) (entries : LinkedEntries) : LinkedEntries :=
  if o.envPrefix.isEmpty then entries else entries.applyEnvironment o.envPrefix o.env

/-- The entries of the file with the environment and the overrides on top. -/
def overlay (o : Origin) (entries : LinkedEntries) : Entries :=
  LinkedEntries.toEntries ((o.withEnvironment entries).mergeOverrides o.overrides)

def data (o : Origin) : Except File.ReadError Entries := o.fileEntries.map o.overlay

/-- The records of putting the environment and the overrides on top of entries. -/
def overlayRecords (o : Origin) (entries : LinkedEntries) : List Log.Record :=
  (if o.envPrefix.isEmpty then [] else environmentRecords o.envPrefix o.env)
    ++ (o.withEnvironment entries).overrideRecords o.overrides

/-- Reads the file, if there is one. -/
def loadFile (o : Origin) : Journal File.ReadError LinkedEntries :=
  match o.file with
  | none => ⟨[], .ok []⟩
  | some s => s.load

@[simp] theorem result_loadFile (o : Origin) : o.loadFile.result = o.fileEntries := by
  unfold loadFile fileEntries
  split <;> simp_all

end Origin

namespace Schema

def validatedRecord (s : Schema) : Log.Record :=
  .info "loader" s!"Configuration validated against {s.shown}"

def load (s : Schema) (o : Origin) (lint : Bool) : Journal LoadError Accessor := do
  let entries ← o.loadFile.mapError .file
  Journal.notes (o.overlayRecords entries)
  let a ← (s.parseJournal (.map (o.overlay entries)) lint).mapError .parse
  Journal.note s.validatedRecord
  return a

end Schema

end Settings
