import Settings.Json.Reader
import Settings.Log.Record
import Settings.Overlay.Assign
import Settings.Text.Case

/-!
# Settings from the environment

A variable whose name starts with a prefix sets one value of a configuration.  The rest of the
name, in lower case and split at double underscores, is the path of the value.  What the variable
holds is read as JSON, and is a text if it is none.  Variables are applied in ascending order of
their names.
-/

namespace Settings

structure Variable where
  name : String
  text : String
  deriving DecidableEq, Repr

/-- The parts of a text between double underscores.  `part` is the current one, backwards. -/
def splitUnderscores (part : List Char) : List Char → List (List Char)
  | [] => [part.reverse]
  | '_' :: '_' :: rest => part.reverse :: splitUnderscores [] rest
  | c :: rest => splitUnderscores (c :: part) rest

namespace Variable

/-- The path that a variable sets; no names if it does not set anything. -/
def path (prefixText : String) (v : Variable) : List String :=
  match prefixText.toList.isPrefixOf v.name.toList with
  | false => []
  | true =>
      let rest := v.name.toList.drop prefixText.length
      let parts := splitUnderscores [] (Text.lowerAfter [] rest)
      (parts.filter (!·.isEmpty)).map String.ofList

def value (v : Variable) : Value :=
  match Json.read v.text with
  | .ok x => x
  | .error _ => .str v.text

def apply (prefixText : String) (entries : Entries) (v : Variable) : Entries :=
  entries.assign ((v.path prefixText).map .str) v.value

def applyInPlace (prefixText : String) (entries : LinkedEntries) (v : Variable) : LinkedEntries :=
  entries.assign ((v.path prefixText).map .str) v.value

def record? (prefixText : String) (v : Variable) : Option Log.Record :=
  match v.path prefixText with
  | [] => none
  | path =>
      let place := ".".intercalate path
      some (.debug "loader" s!"Environment override: {v.name} → {place} = {v.value.shown}")

end Variable

def sortVariables (vs : List Variable) : List Variable :=
  vs.mergeSort fun v w => v.name ≤ w.name

def applyEnvironment (entries : Entries) (prefixText : String) (env : List Variable) : Entries :=
  (sortVariables env).foldl (Variable.apply prefixText) entries

/-- The environment on top of a configuration in which maps may be repeated. -/
def LinkedEntries.applyEnvironment (entries : LinkedEntries) (prefixText : String)
    (env : List Variable) : LinkedEntries :=
  (sortVariables env).foldl (Variable.applyInPlace prefixText) entries

def environmentRecords (prefixText : String) (env : List Variable) : List Log.Record :=
  (sortVariables env).filterMap (Variable.record? prefixText)

end Settings
