import Settings.Schema.References

/-!
# Schema documents

A schema document describes a schema in the terms of JSON Schema, for editors and other tools.
Object fields are described apart and referred to by name.
-/

namespace Settings.Schema

/-- Why there is no document. -/
inductive DocumentError where
  /-- A text in a default refers to nothing. -/
  | unknownReference (reference : String)
  /-- What a default or an example has in the place of definitions is no map. -/
  | definitionsNotMap (typeName : String)
  /-- The names of definitions keep changing. -/
  | unsettled
  deriving DecidableEq, Repr

def DocumentError.message : DocumentError → String
  | .unknownReference r => r
  | .definitionsNotMap t => s!"'{t}' object has no attribute 'items'"
  | .unsettled => "Failed to simplify the JSON schema definitions"

/-- A document: the description of the root, and definitions by their names. -/
structure Document (ρ : Type) where
  root : ObjectType ρ
  definitions : List (ρ × ObjectType ρ)

/-- What becomes of internal names that stand somewhere in a schema. -/
def Renaming.ofNames (s : Schema) (names : List String) : Renaming :=
  { references := (s.internalNames.map referenceTo).zip (names.map referenceTo)
    names := s.internalNames.zip names }

/-- The document in which definitions have some names. -/
def documentNamed (s : Schema) (names : List String) : Document String :=
  let g := Renaming.ofNames s names
  { root := g.object (s.rootType.mapReferences (nameIn names))
    definitions := (definitionsOf s.found names).map fun (name, x) => (name, g.object x) }

def document (s : Schema) : Except DocumentError (Document String) :=
  match s.unknownReference?, s.stray?, settledNames? s.found with
  | some r, _, _ => .error (.unknownReference r)
  | none, some v, _ => .error (.definitionsNotMap v.typeName)
  | none, none, none => .error .unsettled
  | none, none, some names => .ok (s.documentNamed names)

/-- Members of a description, in ascending order of their names. -/
def members (ms : List (String × Value)) : Value :=
  .map (ms.map fun (name, v) => (.str name, v))

def PropertyType.members : PropertyType String → List (String × Value)
  | .scalar .string => [("type", .str "string")]
  | .scalar .int => [("type", .str "integer")]
  | .scalar .float => [("type", .str "number")]
  | .scalar .bool => [("type", .str "boolean")]
  | .scalar .duration => [("format", .str "duration"), ("type", .str "string")]
  | .reference name => [("$ref", .str (referenceTo name))]

def Property.toValue (p : Property String) : Value :=
  let own : List (String × Value) :=
    if p.nullable then
      [("anyOf", .list [Schema.members p.type.members, Schema.members [("type", .str "null")]])]
    else p.type.members
  let shared : List (String × Value) :=
    (match p.defaultValue with
      | some v => [("default", v)]
      | none => [])
    ++ (if p.description.isEmpty then [] else [("description", .str p.description)])
    ++ (if p.examples.isEmpty then [] else [("examples", .list p.examples)])
    ++ [("title", .str p.title)]
  Schema.members ((own ++ shared).mergeSort fun m n => m.1 ≤ n.1)

def ObjectType.members (x : ObjectType String) : List (String × Value) :=
  [("additionalProperties", .bool false),
   ("properties", .map (x.properties.map fun p => (.str p.name, p.toValue)))]
    ++ (if x.required.isEmpty then [] else [("required", .list (x.required.map .str))])
    ++ [("title", .str x.title), ("type", .str "object")]

def Document.toValue (d : Document String) : Value :=
  Schema.members <|
    (if d.definitions.isEmpty then []
      else
        [("$defs",
          .map (d.definitions.map fun (name, x) => (.str name, Schema.members x.members)))])
    ++ d.root.members

end Settings.Schema
