import Settings.File.Path
import Settings.Text.Quoted

/-!
# File trees

What lies at a path: nothing, something that cannot be read, as a directory cannot, or a file with
its octets.  A tree held in memory answers this for the paths below its top.  A directory is there if
it is listed or if something lies in it.
-/

namespace Settings.File

/-- What the system says when it refuses an operation. -/
structure Fault where
  code : Nat
  reason : String
  deriving DecidableEq, Repr

def Fault.message (e : Fault) (path : String) : String :=
  s!"[Errno {e.code}] {e.reason}: {Text.quote path}"

inductive Content where
  | missing
  /-- The system does not even say whether something is there. -/
  | hidden (fault : Fault)
  | unreadable (fault : Fault)
  | octets (bytes : List UInt8)
  deriving DecidableEq, Repr

def Content.directory : Content := .unreadable ⟨21, "Is a directory"⟩

/-- A file or a directory of a tree, with the names that lead to it from the top. -/
structure Item where
  names : List String
  /-- The octets of a file; a directory has none. -/
  octets : Option (List UInt8)
  deriving DecidableEq, Repr

abbrev Tree := List Item

inductive Place where
  | below (names : List String)
  /-- Somewhere above the top of the tree. -/
  | above
  | nowhere
  deriving DecidableEq, Repr

namespace Tree

def contentBelow (t : Tree) (names : List String) : Content :=
  match t.find? (·.names == names) with
  | some ⟨_, some octets⟩ => .octets octets
  | some ⟨_, none⟩ => .directory
  | none =>
      if names.isEmpty || t.any fun i => names.isPrefixOf i.names then .directory else .missing

/-- Goes on from a place by a name.  Only from a directory is there a way on. -/
def step (t : Tree) (place : Place) (name : String) : Place :=
  match place with
  | .below names =>
      if t.contentBelow names != .directory then .nowhere
      else if name != ".." then .below (names ++ [name])
      else if names.isEmpty then .above
      else .below names.dropLast
  | .above => if name == ".." then .above else .nowhere
  | .nowhere => .nowhere

def contentOf (t : Tree) : Place → Content
  | .below names => t.contentBelow names
  | .above => .directory
  | .nowhere => .missing

/-- What lies at a path.  From a root only the directories above the tree can be seen. -/
def content (t : Tree) (p : Path) : Content :=
  let start : Place := if p.root == "" then .below [] else .above
  t.contentOf (p.names.foldl t.step start)

end Tree

end Settings.File
