import Settings.File.Tree
import Settings.Json.Reader
import Settings.Text.Utf8
import Settings.Yaml.Document

/-!
# Configuration files

The suffix of a file tells whether it holds YAML or JSON.  Its text is UTF-8, and at its top there
is a mapping; a YAML document that says nothing counts as an empty one.
-/

namespace Settings.File

/-- Why a file holds no configuration. -/
inductive Refusal where
  | notFound (path : String)
  | unreadable (path : String) (fault : Fault)
  | invalidYaml (path : String)
  | invalidJson (path fault : String)
  | unsupported (suffix : String)
  | notMapping (path : String)
  deriving DecidableEq, Repr

def Refusal.message : Refusal → String
  | .notFound path => s!"Config file not found: {path}"
  | .unreadable path fault => s!"Cannot read config file {path}: {fault.message path}"
  | .invalidYaml path => s!"Invalid YAML in {path}"
  | .invalidJson path fault => s!"Invalid JSON in {path}: {fault}"
  | .unsupported suffix => s!"Unsupported file format: {suffix}. Use .yaml or .json"
  | .notMapping path => s!"Config file {path} must contain a mapping at the top level"

/-- Why a file cannot be read.  Besides a refusal this may be something that is wrong with its place,
with its octets or with one of its scalars. -/
inductive ReadError where
  | refused (r : Refusal)
  | hidden (path : String) (fault : Fault)
  | notText (e : Text.Utf8Error)
  | tooManyDigits (count : Nat)
  | scalar (e : Yaml.ReadError)

def ReadError.message : ReadError → String
  | .refused r => r.message
  | .hidden path fault => fault.message path
  | .notText e => e.message
  | .tooManyDigits count => Json.digitLimitMessage count
  | .scalar e => e.message

inductive Format where
  | yaml
  | json
  deriving DecidableEq, Repr

def Format.ofSuffix? (suffix : String) : Option Format :=
  if suffix == ".yaml" || suffix == ".yml" then some .yaml
  else if suffix == ".json" then some .json
  else none

section

variable (yaml : String → Except Yaml.ReadError Linked)

/-- The value that a text holds in a format.  The path is for messages. -/
def valueIn (format : Format) (path text : String) : Except ReadError Linked :=
  match format with
  | .yaml =>
      match yaml text with
      | .ok t => .ok (if t.toValue.isFalsy then .ofValue (.map []) else t)
      | .error .malformed => .error (.refused (.invalidYaml path))
      | .error e => .error (.scalar e)
  | .json =>
      match Json.read text with
      | .ok v => .ok (.ofValue v)
      | .error (.tooManyDigits count) => .error (.tooManyDigits count)
      | .error e => .error (.refused (.invalidJson path e.message))

def valueOf (p : Path) (octets : List UInt8) : Except ReadError Linked :=
  match Text.decodeUtf8 octets with
  | .error e => .error (.notText e)
  | .ok cs =>
      match Format.ofSuffix? p.suffix with
      | none => .error (.refused (.unsupported p.suffix))
      | some format => valueIn yaml format p.text (String.ofList (Text.unifyLineEnds cs))

/-- The entries of the configuration at a path where `content` lies, with the maps marked that the
text repeats, by a reader of YAML. -/
def readLinkedBy (p : Path) (content : Content) : Except ReadError LinkedEntries :=
  match content with
  | .missing => .error (.refused (.notFound p.text))
  | .hidden fault => .error (.hidden p.text fault)
  | .unreadable fault => .error (.refused (.unreadable p.text fault))
  | .octets octets =>
      match valueOf yaml p octets with
      | .error e => .error e
      | .ok (.map _ entries) => .ok entries
      | .ok _ => .error (.refused (.notMapping p.text))

def readBy (p : Path) (content : Content) : Except ReadError Entries :=
  (readLinkedBy yaml p content).map LinkedEntries.toEntries

end

def readLinked (p : Path) (content : Content) : Except ReadError LinkedEntries :=
  readLinkedBy Yaml.read p content

def read (p : Path) (content : Content) : Except ReadError Entries :=
  readBy Yaml.read p content

end Settings.File
