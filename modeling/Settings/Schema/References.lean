import Settings.Schema.Naming

/-!
# References in defaults and examples

References are sought and renamed in all of a document, its defaults and examples included.  There
they can be anything: texts under the key of references that lead nowhere, definitions that are none,
and texts that happen to be references.
-/

namespace Settings.Schema

def isText (text : String) : Value → Bool
  | .str s => s == text
  | _ => false

/-! ## References -/

mutual

/-- The texts under `$ref` in a value.  Lists of examples are not looked into. -/
def references : Value → List String
  | .list items => referencesOfItems items
  | .map entries => referencesOfEntries entries
  | _ => []

def referencesOfItems : List Value → List String
  | [] => []
  | v :: rest => references v ++ referencesOfItems rest

def referencesOfEntries : List (Value × Value) → List String
  | [] => []
  | (k, v) :: rest =>
      (match v with
        | .str s => if isText "$ref" k then [s] else []
        | .list items => if isText "examples" k then [] else referencesOfItems items
        | v => references v) ++ referencesOfEntries rest

end

mutual

/-- The texts under `$ref` in the defaults of a field and of all that it contains. -/
def fieldReferences : Field → List String
  | .scalar info _ => (info.defaultValue.map fun v => references (plain v)).getD []
  | .object info children _ =>
      allReferences children ++ (info.defaultValue.map fun v => references (plain v)).getD []

def allReferences : List Field → List String
  | [] => []
  | f :: rest => fieldReferences f ++ allReferences rest

end

/-- Whether a text refers to something elsewhere. -/
def isRemote (reference : String) : Bool :=
  reference.startsWith "http://" || reference.startsWith "https://"

/-- The names of all definitions, that of the root included, before they are made shorter. -/
def internalNames (s : Schema) : List String :=
  let found := s.found ++ [s.rootType]
  found.mapIdx (internalName found)

/-- The first text under `$ref` that refers to nothing. -/
def unknownReference? (s : Schema) : Option String :=
  (allReferences s.fields).find? fun r =>
    !(s.internalNames.map referenceTo).contains r && !isRemote r

/-! ## Definitions -/

mutual

/-- The values under `$defs` that are no maps. -/
def strays : Value → List Value
  | .list items => straysOfItems items
  | .map entries => straysOfEntries entries
  | _ => []

def straysOfItems : List Value → List Value
  | [] => []
  | v :: rest => strays v ++ straysOfItems rest

def straysOfEntries : List (Value × Value) → List Value
  | [] => []
  | (k, v) :: rest =>
      (if isText "$defs" k then straysOfDefinitions v else strays v) ++ straysOfEntries rest

/-- The same for a value under `$defs`: the keys in it are names. -/
def straysOfDefinitions : Value → List Value
  | .map entries => straysOfNamed entries
  | v => [v]

def straysOfNamed : List (Value × Value) → List Value
  | [] => []
  | (_, v) :: rest => strays v ++ straysOfNamed rest

end

def Property.strays {ρ : Type} (p : Property ρ) : List Value :=
  (p.defaultValue.map Schema.strays).getD [] ++ straysOfItems p.examples

/-- The first value under `$defs` that is no map. -/
def stray? (s : Schema) : Option Value :=
  ((s.found ++ [s.rootType]).flatMap fun x => x.properties.flatMap Property.strays).head?

/-! ## Renaming -/

/-- The texts to be replaced, where they are values and where they are keys of definitions. -/
structure Renaming where
  references : List (String × String)
  names : List (String × String)

namespace Renaming

def text (g : Renaming) (s : String) : String := (g.references.lookup s).getD s

def key (g : Renaming) : Value → Value
  | .str s => .str ((g.names.lookup s).getD s)
  | k => k

mutual

def value (g : Renaming) : Value → Value
  | .str s => .str (g.text s)
  | .list items => .list (g.items items)
  | .map entries => .map (g.entries entries)
  | v => v

def items (g : Renaming) : List Value → List Value
  | [] => []
  | v :: rest => g.value v :: g.items rest

def entries (g : Renaming) : List (Value × Value) → List (Value × Value)
  | [] => []
  | (k, v) :: rest =>
      (k, if isText "$defs" k then g.definitions v else g.value v) :: g.entries rest

/-- Renames a value under `$defs`. -/
def definitions (g : Renaming) : Value → Value
  | .map entries => .map (g.namedEntries entries)
  | v => v

def namedEntries (g : Renaming) : List (Value × Value) → List (Value × Value)
  | [] => []
  | (k, v) :: rest => (g.key k, g.value v) :: g.namedEntries rest

end

variable {ρ : Type}

def property (g : Renaming) (p : Property ρ) : Property ρ :=
  { p with
    title := g.text p.title
    description := g.text p.description
    examples := g.items p.examples
    defaultValue := p.defaultValue.map g.value }

def object (g : Renaming) (x : ObjectType ρ) : ObjectType ρ :=
  { title := g.text x.title
    properties := x.properties.map g.property
    required := x.required.map g.text }

end Renaming

end Settings.Schema
