import Settings.Schema.Description

/-!
# Names of definitions

Field names can lead to the same title.  Definitions of one title that are equal are one definition
and go by their title; otherwise each gets a name of its own, with the number of its turn.
-/

namespace Settings.Schema

section

variable {ρ : Type}

/-- How many descriptions up to the `i`-th one have a title. -/
def turn (all : List (ObjectType ρ)) (i : Nat) (title : String) : Nat :=
  ((all.take (i + 1)).filter (·.title == title)).length

variable [BEq ρ]

/-- The name of the `i`-th description: its title if all others of that title are equal to it,
otherwise a longer name with the number of its turn among them. -/
def definitionName (all : List (ObjectType ρ)) (i : Nat) (x : ObjectType ρ) : String :=
  let others := (all.eraseIdx i).filter (·.title == x.title)
  if others.all (·.same x) then x.title
  else s!"ConfigSpec__spec__{x.title}__{turn all i x.title}"

def definitionNames (all : List (ObjectType ρ)) : List String :=
  all.mapIdx (definitionName all)

end

def nameIn (names : List String) (i : Nat) : String := names.getD i ""

/-- A reference by position or, once there is one, by name. -/
inductive Reference where
  | position (i : Nat)
  | name (name : String)
  deriving DecidableEq, Repr

/-- Gives names to the references that have none.  The others keep the names they have. -/
def Reference.named (names : List String) : Reference → Reference
  | position i => name (nameIn names i)
  | name n => name n

/-- Names definitions in rounds, until one gives the names of the round before.  Objects that contain
objects can only be recognised as equal once the inner ones have got their names. -/
def settle (all : List (ObjectType Reference)) (before : Option (List String)) :
    Nat → Option (List String)
  | 0 => none
  | rounds + 1 =>
      let names := definitionNames all
      if before = some names then some names
      else settle (all.map (·.mapReferences (Reference.named names))) (some names) rounds

def maxRounds : Nat := 100

/-- The names that descriptions get, if they settle. -/
def settledNames? (found : List (ObjectType Nat)) : Option (List String) :=
  settle (found.map (·.mapReferences .position)) none maxRounds

/-- Sets the entry of a name; a later one replaces an earlier one. -/
def putDefinition (definitions : List (String × α)) (name : String) (x : α) : List (String × α) :=
  if definitions.any (·.1 == name) then
    definitions.map fun d => if d.1 == name then (name, x) else d
  else definitions ++ [(name, x)]

/-- Descriptions as definitions, in ascending order of their names. -/
def definitionsOf (found : List (ObjectType Nat)) (names : List String) :
    List (String × ObjectType String) :=
  let named := (found.map (·.mapReferences (nameIn names))).zip names
  let definitions := named.foldl (fun ds (x, name) => putDefinition ds name x) []
  definitions.mergeSort fun d e => d.1 ≤ e.1

/-- The name of the `i`-th description while no shorter one has been found for it. -/
def internalName {ρ : Type} (all : List (ObjectType ρ)) (i : Nat) (x : ObjectType ρ) : String :=
  s!"ConfigSpec__spec__{x.title}-Input__{turn all i x.title}"

def referenceTo (name : String) : String := "#/$defs/" ++ name

end Settings.Schema
