import Settings.Yaml.Cursor

/-!
# YAML tokens

A text is a sequence of tokens.  Some of them stand for characters; the starts and ends of block
collections stand for changes of indentation.
-/

namespace Settings.Yaml

/-- What a line that starts with a percent sign asks for. -/
inductive Directive where
  | version (major : Nat)
  | tagPrefix (handle start : String)
  | reserved
  deriving DecidableEq, Repr

inductive Token where
  | directive (d : Directive)
  | documentStart
  | documentEnd
  | blockSequenceStart
  | blockMappingStart
  | blockEnd
  | flowSequenceStart
  | flowSequenceEnd
  | flowMappingStart
  | flowMappingEnd
  | blockEntry
  | flowEntry
  | key
  | value
  | alias (name : String)
  | anchor (name : String)
  | tag (handle : Option String) (suffix : String)
  /-- A scalar; only a plain one can stand for something other than a text. -/
  | scalar (text : String) (isPlain : Bool)
  deriving DecidableEq, Repr

end Settings.Yaml
