import Settings.Duration.Reading
import Settings.Value.Text

/-!
# Fields

A field describes one node of a configuration: its name, what kind of value it holds, a
description, a default and examples.  An object field has child fields and rules that look at the
values of all of them together.  A field is a value; a builder step returns a changed copy.
-/

namespace Settings

/-- The kinds of values without children. -/
inductive ScalarKind where
  | string | int | float | bool | duration
  deriving DecidableEq, Repr

def ScalarKind.text : ScalarKind → String
  | .string => "string"
  | .int => "int"
  | .float => "float"
  | .bool => "bool"
  | .duration => "duration"

/-- A named check on the values of an object field.  It answers with one message for each problem;
it may also stumble over a value that is not read as a duration. -/
structure Rule where
  name : String
  check : Entries → Except DurationError (List String)

structure FieldInfo where
  name : String
  description : String := ""
  defaultValue : Option Value := none
  examples : List Value := []
  isOptional : Bool := false
  isAdvanced : Bool := false

inductive Field where
  | scalar (info : FieldInfo) (kind : ScalarKind)
  | object (info : FieldInfo) (children : List Field) (rules : List Rule)

inductive Owner where
  | object (name : Value)
  | root
  deriving Inhabited

def Owner.text : Owner → String
  | .object name => s!"object field '{name.display}'"
  | .root => "config spec"

inductive DeclarationError where
  | blankName
  | notAField (owner : Owner) (value : Value)
  | duplicateName (name : String) (owner : Owner)
  | badDurationDefault (name : String) (value : Value)
  /-- The default of a duration field is not refused, but too large to be read. -/
  | overflow (cause : DurationError)
  | ruleOnScalar (name : String) (kind : ScalarKind)

def DeclarationError.message : DeclarationError → String
  | .blankName => "field names must be non-empty strings"
  | .notAField owner v => s!"{owner.text} children must be FieldSpec instances, got {v.shown}"
  | .duplicateName name owner => s!"duplicate field name '{name}' in {owner.text}"
  | .badDurationDefault name v =>
      s!"default for duration field '{name}' must be a duration string, got {v.shown}"
  | .overflow cause => cause.message
  | .ruleOnScalar name kind =>
      s!"lint rules can only be attached to object fields, '{name}' is {kind.text}"

/-- A name that no field has, with where it was looked for. -/
inductive LookupError where
  | noChild (parent name : String)
  | noField (name : String)
  deriving DecidableEq, Repr

def LookupError.message : LookupError → String
  | .noChild parent name => s!"field '{parent}' has no child named '{name}'"
  | .noField name => s!"config spec has no field named '{name}'"

/-- What is handed in as a sibling: a field or something else. -/
inductive Candidate where
  | field (f : Field)
  | value (v : Value)

namespace Field

def info : Field → FieldInfo
  | scalar i _ => i
  | object i _ _ => i

def name (f : Field) : String := f.info.name

def children : Field → List Field
  | scalar .. => []
  | object _ cs _ => cs

def rules : Field → List Rule
  | scalar .. => []
  | object _ _ rs => rs

def isObject : Field → Bool
  | scalar .. => false
  | object .. => true

def kindText : Field → String
  | scalar _ k => k.text
  | object .. => "object"

def hasDefault (f : Field) : Bool := f.info.defaultValue.isSome

/-- Whether null stands for "not given": an optional field without a default. -/
def isNullable (f : Field) : Bool := f.info.isOptional && !f.hasDefault

/-- Applies a change to the part that all kinds share. -/
def mapInfo (g : FieldInfo → FieldInfo) : Field → Field
  | scalar i k => scalar (g i) k
  | object i cs rs => object (g i) cs rs

@[simp] theorem info_mapInfo (g : FieldInfo → FieldInfo) (f : Field) :
    (f.mapInfo g).info = g f.info := by
  cases f <;> rfl

/-- A name has to be a text that is not blank. -/
def checkName : Value → Except DeclarationError String
  | .str s => if Text.isBlankText s then .error .blankName else .ok s
  | _ => .error .blankName

/-- Siblings have to be fields of different names; `seen` are the names of earlier ones. -/
def checkSiblings (owner : Owner) (seen : List String) :
    List Candidate → Except DeclarationError (List Field)
  | [] => .ok []
  | .value v :: _ => .error (.notAField owner v)
  | .field f :: rest =>
      if seen.contains f.name then .error (.duplicateName f.name owner)
      else (checkSiblings owner (f.name :: seen) rest).map (f :: ·)

/-- Declares a field without children. -/
def newScalar (kind : ScalarKind) (name : Value) : Except DeclarationError Field :=
  (checkName name).map fun s => scalar { name := s } kind

def newObject (name : Value) (children : List Candidate) : Except DeclarationError Field := do
  let fields ← checkSiblings (.object name) [] children
  let s ← checkName name
  return object { name := s } fields []

def withDescription (text : String) (f : Field) : Field :=
  f.mapInfo fun i => { i with description := text }

def appendDescription (text : String) (f : Field) : Field :=
  f.mapInfo fun i =>
    { i with description := if i.description.isEmpty then text else s!"{i.description} {text}" }

/-- Declares the default.  That of a duration field has to be a literal. -/
def withDefault (value : Value) : Field → Except DeclarationError Field
  | scalar i .duration =>
      match Duration.isLiteral value with
      | .ok true => .ok (scalar { i with defaultValue := some value } .duration)
      | .ok false => .error (.badDurationDefault i.name value)
      | .error cause => .error (.overflow cause)
  | f => .ok (f.mapInfo fun i => { i with defaultValue := some value })

def withExamples (values : List Value) (f : Field) : Field :=
  f.mapInfo fun i => { i with examples := i.examples ++ values }

def optional (f : Field) : Field :=
  f.mapInfo fun i => { i with isOptional := true }

def advanced (f : Field) : Field :=
  f.mapInfo fun i => { i with isAdvanced := true }

def withRule (rule : Rule) : Field → Except DeclarationError Field
  | scalar i kind => .error (.ruleOnScalar i.name kind)
  | object i cs rs => .ok (object i cs (rs ++ [rule]))

def child (name : String) (f : Field) : Except LookupError Field :=
  match f.children.find? (·.name == name) with
  | some c => .ok c
  | none => .error (.noChild f.name name)

def childNames (f : Field) : List String :=
  f.children.map Field.name

mutual

/-- Whether a field has a value when it is not given. -/
def resolvesWithoutInput : Field → Bool
  | scalar i _ => i.defaultValue.isSome || i.isOptional
  | object i cs _ => i.defaultValue.isSome || i.isOptional || allResolveWithoutInput cs

def allResolveWithoutInput : List Field → Bool
  | [] => true
  | f :: rest => f.resolvesWithoutInput && allResolveWithoutInput rest

end

/-- The value that stands in for a field that is not given: its default, null if it is optional,
no entries for an object field whose children all have values without input. -/
def standIn? (f : Field) : Option Value :=
  match f.info.defaultValue with
  | some v => some v
  | none =>
      if f.info.isOptional then some .null
      else if f.isObject && f.resolvesWithoutInput then some (.map [])
      else none

/-- Whether two fields' shared parts are equal, values being compared by `Value.same`. -/
def sameInfo (i j : FieldInfo) : Bool :=
  i.name == j.name && i.description == j.description
    && (match i.defaultValue, j.defaultValue with
      | none, none => true
      | some v, some w => v.same w
      | _, _ => false)
    && Value.sameItems i.examples j.examples
    && i.isOptional == j.isOptional && i.isAdvanced == j.isAdvanced

mutual

/-- Whether two fields are equal in everything but their rules. -/
def same : Field → Field → Bool
  | scalar i k, scalar j l => sameInfo i j && k == l
  | object i cs _, object j ds _ => sameInfo i j && sameAll cs ds
  | _, _ => false

def sameAll : List Field → List Field → Bool
  | [], [] => true
  | c :: cs, d :: ds => same c d && sameAll cs ds
  | _, _ => false

end

theorem allResolveWithoutInput_eq_true_iff {fs : List Field} :
    allResolveWithoutInput fs = true ↔ ∀ f ∈ fs, f.resolvesWithoutInput = true := by
  induction fs with
  | nil => simp [allResolveWithoutInput]
  | cons f rest ih => simp [allResolveWithoutInput, ih]

end Field

end Settings
