import Settings.Value.Linked

/-!
# Setting single values

A value is set at a path below a configuration.  What stands in the way and is no map gives way to
one.  Where maps are repeated the change is made in place: a map that is reached on the way and
stands in other places as well is changed in all of them.
-/

namespace Settings

namespace Entries

/-- The map under a key; without a map there an empty one. -/
def mapUnder (entries : Entries) (key : Value) : Entries :=
  match entries.get? key with
  | some (.map inner) => inner
  | _ => []

/-- Sets the value at a path. -/
def assign (entries : Entries) (path : List Value) (value : Value) : Entries :=
  match path with
  | [] => entries
  | [key] => Entries.put entries key value
  | key :: rest => Entries.put entries key (.map (assign (entries.mapUnder key) rest value))

end Entries

namespace LinkedEntries

/-- The map under a key with its mark; without a map there an empty one. -/
def mapUnder (entries : LinkedEntries) (key : Value) : Option Nat × LinkedEntries :=
  match entries.get? key with
  | some (.map mark inner) => (mark, inner)
  | _ => (none, [])

/-- Sets the value at a path in this place only. -/
def assignHere (entries : LinkedEntries) (path : List Value) (value : Value) : LinkedEntries :=
  match path with
  | [] => entries
  | [key] => entries.put key (.ofValue value)
  | key :: rest =>
      let (mark, inner) := entries.mapUnder key
      entries.put key (.map mark (assignHere inner rest value))

/-- The last marked map on the way to a value, with the rest of the path from there. -/
def lastMark? (entries : LinkedEntries) : List Value → Option (Nat × List Value)
  | [] | [_] => none
  | key :: next :: rest =>
      let (mark, inner) := entries.mapUnder key
      (lastMark? inner (next :: rest)).or (mark.map fun m => (m, next :: rest))

end LinkedEntries

mutual

/-- Changes the map of a mark in all its places. -/
def Linked.change (mark : Nat) (f : LinkedEntries → LinkedEntries) : Linked → Linked
  | .leaf v h => .leaf v h
  | .list items => .list (Linked.changeItems mark f items)
  | .map m entries =>
      if m = some mark then .map m (f entries) else .map m (LinkedEntries.change mark f entries)

def Linked.changeItems (mark : Nat) (f : LinkedEntries → LinkedEntries) : List Linked → List Linked
  | [] => []
  | t :: rest => t.change mark f :: Linked.changeItems mark f rest

def LinkedEntries.change (mark : Nat) (f : LinkedEntries → LinkedEntries) :
    List (Value × Linked) → List (Value × Linked)
  | [] => []
  | (key, t) :: rest => (key, t.change mark f) :: LinkedEntries.change mark f rest

end

/-- Sets the value at a path, in all places of the map that it comes to stand in. -/
def LinkedEntries.assign (entries : LinkedEntries) (path : List Value) (value : Value) :
    LinkedEntries :=
  match entries.lastMark? path with
  | some (mark, rest) =>
      LinkedEntries.change mark (fun inner => inner.assignHere rest value) entries
  | none => entries.assignHere path value

end Settings
