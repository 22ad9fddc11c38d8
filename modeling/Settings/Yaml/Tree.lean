import Settings.Yaml.Node
import Settings.Yaml.Scalar

/-!
# Nodes with full tags and merged entries

A mapping may ask with the key `<<` for the entries of another mapping, or of several in a sequence.
They come in front of its own entries, those of the last one of a sequence first, so that of two
entries for one key the more specific one comes later.  Only mappings that become maps or sets do
this.
-/

namespace Settings.Yaml

/-- A node that is ready to be given its value. -/
inductive Tree where
  | scalar (tag text : String)
  | sequence (tag : String) (items : List Tree)
  | mapping (mark : Nat) (tag : String) (entries : List (Tree × Tree))
  /-- A mapping that asks for entries from something that has none. -/
  | unmergeable
  deriving Inhabited

def Tree.tag : Tree → String
  | .scalar tag _ | .sequence tag _ | .mapping _ tag _ => tag
  | .unmergeable => coreTag "map"

def Tag.ofScalar (text : String) : Tag → String
  | .plain => impliedTag text
  | .quoted => coreTag "str"
  | .named name => name

/-- The full name of a collection's tag, which is `implied` unless it is given. -/
def Tag.ofCollection (implied : String) : Tag → String
  | .named name => name
  | _ => coreTag implied

def Node.tag : Node → String
  | .scalar tag text => tag.ofScalar text
  | .sequence tag _ => tag.ofCollection "seq"
  | .mapping _ tag _ => tag.ofCollection "map"

/-- Whether a sequence with this tag holds pairs, each written as a mapping. -/
def isPairsTag (tag : String) : Bool := tag == coreTag "omap" || tag == coreTag "pairs"

def isMergingTag (tag : String) : Bool := tag == coreTag "map" || tag == coreTag "set"

/-- The entries merged into a mapping, and its own. -/
structure Merged where
  merged : List (Tree × Tree) := []
  own : List (Tree × Tree) := []

def Merged.all (m : Merged) : List (Tree × Tree) := m.merged ++ m.own

/-- The tag of a key in a merging mapping: the key `=` is a text. -/
def keyTag (tag : String) : String := if tag == coreTag "value" then coreTag "str" else tag

def Tree.asKey : Tree → Tree
  | .scalar tag text => .scalar (keyTag tag) text
  | .sequence tag items => .sequence (keyTag tag) items
  | .mapping mark tag entries => .mapping mark (keyTag tag) entries
  | .unmergeable => .unmergeable

mutual

/-- A node with its full tag and its merged entries. -/
def Node.tree : Node → Tree
  | .scalar tag text => .scalar (tag.ofScalar text) text
  | .sequence tag items =>
      let name := tag.ofCollection "seq"
      .sequence name (if isPairsTag name then pairTrees items else trees items)
  | .mapping mark tag entries =>
      let name := tag.ofCollection "map"
      if isMergingTag name then
        match mergedEntries entries with
        | some m => .mapping mark name m.all
        | none => .unmergeable
      else .mapping mark name (entryTrees entries)

def trees : List Node → List Tree
  | [] => []
  | n :: rest => n.tree :: trees rest

/-- The items of a sequence of pairs, whose mappings have no merge keys. -/
def pairTrees : List Node → List Tree
  | [] => []
  | .mapping mark tag entries :: rest =>
      .mapping mark (tag.ofCollection "map") (entryTrees entries) :: pairTrees rest
  | n :: rest => n.tree :: pairTrees rest

/-- The entries of a mapping without merge keys. -/
def entryTrees : List (Node × Node) → List (Tree × Tree)
  | [] => []
  | (k, v) :: rest => (k.tree, v.tree) :: entryTrees rest

def mergedEntries : List (Node × Node) → Option Merged
  | [] => some {}
  | (k, v) :: rest => do
      let m ← mergedEntries rest
      if k.tag == coreTag "merge" then return { m with merged := (← sourceEntries v) ++ m.merged }
      else return { m with own := (k.tree.asKey, v.tree) :: m.own }

/-- The entries that the value of a merge key stands for. -/
def sourceEntries : Node → Option (List (Tree × Tree))
  | .mapping _ _ entries => (mergedEntries entries).map Merged.all
  | .sequence _ items => sourceItems items
  | .scalar .. => none

/-- The entries of several mappings, last one first. -/
def sourceItems : List Node → Option (List (Tree × Tree))
  | [] => some []
  | .mapping _ _ entries :: rest => do
      let m ← mergedEntries entries
      return (← sourceItems rest) ++ m.all
  | _ :: _ => none

end

end Settings.Yaml
