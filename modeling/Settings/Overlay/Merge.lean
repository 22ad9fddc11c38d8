import Settings.Log.Record
import Settings.Overlay.Assign

/-!
# Merging overrides

Overrides are merged into a configuration key by key.  Where both sides have a map the maps are
merged; everywhere else the override wins.  Where maps are repeated they are merged in place, one
key after another.
-/

namespace Settings

mutual

/-- What becomes of the value under a key, if there is one, when it is overridden. -/
def overrideValue : Value → Option Value → Value
  | .map overrides, some (.map entries) => .map (mergeEntries overrides entries)
  | v, _ => v

def mergeEntries : List (Value × Value) → Entries → Entries
  | [], entries => entries
  | (key, v) :: rest, entries =>
      mergeEntries rest (Entries.put entries key (overrideValue v (Entries.get? entries key)))

end

/-- The overrides that a value holds; nothing but a map holds any. -/
def overridesOf : Value → List (Value × Value)
  | .map overrides => overrides
  | _ => []

def mergeOverrides (entries : Entries) (overrides : Value) : Entries :=
  mergeEntries (overridesOf overrides) entries

@[simp] theorem mergeOverrides_null (entries : Entries) : mergeOverrides entries .null = entries :=
  rfl

namespace LinkedEntries

def isMapAt (entries : LinkedEntries) : List Value → Bool
  | [] => true
  | key :: rest =>
      match entries.get? key with
      | some (.map _ inner) => isMapAt inner rest
      | _ => false

mutual

/-- Overrides what is at a path. -/
def overrideAt (path : List Value) (entries : LinkedEntries) : Value → LinkedEntries
  | .map overrides =>
      if entries.isMapAt path then mergeAt path entries overrides
      else entries.assign path (.map overrides)
  | v => entries.assign path v

/-- Merges overrides into the map at a path. -/
def mergeAt (path : List Value) (entries : LinkedEntries) : List (Value × Value) → LinkedEntries
  | [] => entries
  | (key, v) :: rest => mergeAt path (overrideAt (path ++ [key]) entries v) rest

end

def mergeOverrides (entries : LinkedEntries) (overrides : Value) : LinkedEntries :=
  mergeAt [] entries (overridesOf overrides)

def overrideRecord (key value : Value) : Log.Record :=
  .debug "loader" s!"Override: {key.display} = {value.shown}"

mutual

/-- The records of what happens inside a value that overrides what is at a path. -/
def overrideRecordsAt (path : List Value) (entries : LinkedEntries) : Value → List Log.Record
  | .map overrides =>
      if entries.isMapAt path then mergeRecordsAt path entries overrides else []
  | _ => []

/-- The records of merging overrides into the map at a path: for each key those from the inside
first. -/
def mergeRecordsAt (path : List Value) (entries : LinkedEntries) :
    List (Value × Value) → List Log.Record
  | [] => []
  | (key, v) :: rest =>
      overrideRecordsAt (path ++ [key]) entries v ++ overrideRecord key v ::
        mergeRecordsAt path (overrideAt (path ++ [key]) entries v) rest

end

def overrideRecords (entries : LinkedEntries) (overrides : Value) : List Log.Record :=
  mergeRecordsAt [] entries (overridesOf overrides)

end LinkedEntries

end Settings
