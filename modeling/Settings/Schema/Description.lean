import Settings.Schema

/-!
# Descriptions of objects

An object is described by its properties, which stand for its fields, and by the names of those that
are required.  Objects inside are described apart and referred to.  Defaults and examples are kept in
the terms of JSON.
-/

namespace Settings.Schema

/-- A duration in the notation of ISO 8601, with years of 365 days. -/
def isoDuration (d : Duration) : String :=
  let n := d.micros.natAbs
  let part (n : Nat) (unit : String) : String := if n = 0 then "" else toString n ++ unit
  let days := n / 86400000000
  let clock := n % 86400000000
  let micros := clock % 1000000
  let fraction :=
    if micros = 0 then ""
    else "." ++ String.ofList (((padded 6 micros).toList.reverse.dropWhile (· == '0')).reverse)
  let seconds := clock / 1000000 % 60
  let time :=
    if clock = 0 then ""
    else "T" ++ part (clock / 3600000000) "H" ++ part (clock / 60000000 % 60) "M"
      ++ (if seconds = 0 ∧ micros = 0 then "" else toString seconds ++ fraction ++ "S")
  (if d.micros < 0 then "-P" else "P")
    ++ (if n = 0 then "T0S" else part (days / 365) "Y" ++ part (days % 365) "D" ++ time)

def keyText : Value → String
  | .str s => s
  | .bool b => if b then "true" else "false"
  | .duration d => isoDuration d
  | v => v.display

mutual

/-- A default or an example in the terms of JSON. -/
def plain : Value → Value
  | .duration d => .str (isoDuration d)
  | .list items => .list (plainItems items)
  | .map entries => .map (Entries.ofList (plainEntries entries))
  | v => v

def plainItems : List Value → List Value
  | [] => []
  | v :: rest => plain v :: plainItems rest

def plainEntries : List (Value × Value) → List (Value × Value)
  | [] => []
  | (k, v) :: rest => (.str (keyText k), plain v) :: plainEntries rest

end

/-- What kind of value a property has; `ρ` is how a definition is referred to. -/
inductive PropertyType (ρ : Type) where
  | scalar (kind : ScalarKind)
  | reference (definition : ρ)

/-- A property, with its name as a key and once more as a title. -/
structure Property (ρ : Type) where
  name : String
  title : String
  type : PropertyType ρ
  nullable : Bool
  description : String
  examples : List Value
  defaultValue : Option Value

structure ObjectType (ρ : Type) where
  title : String
  properties : List (Property ρ)
  required : List String

section Equality

variable {ρ : Type} [BEq ρ]

def PropertyType.same : PropertyType ρ → PropertyType ρ → Bool
  | .scalar k, .scalar l => k == l
  | .reference r, .reference s => r == s
  | _, _ => false

def Property.same (p q : Property ρ) : Bool :=
  p.name == q.name && p.type.same q.type && p.nullable == q.nullable
    && p.title == q.title && p.description == q.description
    && Value.sameItems p.examples q.examples
    && (match p.defaultValue, q.defaultValue with
      | none, none => true
      | some v, some w => v.same w
      | _, _ => false)

/-- Whether two descriptions are equal; the order of properties does not matter. -/
def ObjectType.same (x y : ObjectType ρ) : Bool :=
  x.title == y.title && x.required == y.required && x.properties.length == y.properties.length
    && x.properties.all fun p => y.properties.any p.same

end Equality

section References

variable {ρ σ : Type}

def PropertyType.mapReferences (g : ρ → σ) : PropertyType ρ → PropertyType σ
  | .scalar k => .scalar k
  | .reference r => .reference (g r)

def Property.mapReferences (g : ρ → σ) (p : Property ρ) : Property σ :=
  { name := p.name
    title := p.title
    type := p.type.mapReferences g
    nullable := p.nullable
    description := p.description
    examples := p.examples
    defaultValue := p.defaultValue }

def ObjectType.mapReferences (g : ρ → σ) (x : ObjectType ρ) : ObjectType σ :=
  { title := x.title
    properties := x.properties.map fun p => p.mapReferences g
    required := x.required }

end References

def isRequired (f : Field) : Bool := f.standIn?.isNone

def requiredNames (fields : List Field) : List String := (fields.filter isRequired).map Field.name

/-- The description of a field's value, given the type. -/
def property (f : Field) (type : PropertyType Nat) : Property Nat :=
  { name := f.name
    title := f.name
    type
    nullable := f.isNullable
    description := f.info.description
    examples := plainItems f.info.examples
    defaultValue := if f.isNullable then some .null else f.info.defaultValue.map plain }

mutual

/-- Describes the value of a field.  The descriptions of all objects in it are added to `found`;
they are referred to by their position there. -/
def describe (model : String) (found : List (ObjectType Nat)) :
    Field → PropertyType Nat × List (ObjectType Nat)
  | .scalar _ kind => (.scalar kind, found)
  | .object info children _ =>
      let title := model ++ camelName info.name
      let (properties, found) := describeAll title found children
      (.reference found.length,
        found ++ [{ title, properties, required := requiredNames children }])

/-- Describes sibling fields one after another. -/
def describeAll (model : String) (found : List (ObjectType Nat)) :
    List Field → List (Property Nat) × List (ObjectType Nat)
  | [] => ([], found)
  | f :: rest =>
      let (type, found) := describe model found f
      let (properties, found) := describeAll model found rest
      (property f type :: properties, found)

end

/-- The descriptions of all objects below the root. -/
def found (s : Schema) : List (ObjectType Nat) := (describeAll rootModel [] s.fields).2

/-- The description of the root. -/
def rootType (s : Schema) : ObjectType Nat :=
  { title := rootModel
    properties := (describeAll rootModel [] s.fields).1
    required := requiredNames s.fields }

end Settings.Schema
