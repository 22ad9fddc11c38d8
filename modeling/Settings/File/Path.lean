import Settings.Text.Case

/-!
# File paths

A path is a root, which may be empty, and names below it.  Slashes in a row count once, and a point
as a name says nothing; two points are kept, since what they lead to depends on the file tree.
-/

namespace Settings.File

structure Path where
  /-- Slashes in front of the names: none, one or two. -/
  root : String
  names : List String
  deriving DecidableEq, Repr

namespace Path

def splitSlashes (cs : List Char) : List String :=
  (cs.splitOn '/').map String.ofList

/-- The slashes in front; exactly two have a meaning of their own. -/
def leadingSlashes (cs : List Char) : String :=
  match (cs.takeWhile (· == '/')).length with
  | 0 => ""
  | 2 => "//"
  | _ => "/"

def ofText (text : String) : Path :=
  { root := leadingSlashes text.toList
    names := (splitSlashes text.toList).filter fun n => n != "" && n != "." }

/-- A path as text; without root and names it is the current directory. -/
def text (p : Path) : String :=
  if p.root == "" && p.names.isEmpty then "." else p.root ++ "/".intercalate p.names

/-- The last name. -/
def name (p : Path) : String := p.names.getLastD ""

/-- What follows the last point of a name, with the point.  A point at either end does not count. -/
def suffixOf (name : List Char) : List Char :=
  let behind := (name.reverse.takeWhile (· != '.')).reverse
  let front := name.length - behind.length
  if behind.isEmpty || front ≤ 1 then [] else '.' :: behind

/-- The suffix of the last name, in lower case. -/
def suffix (p : Path) : String :=
  Text.lower (String.ofList (suffixOf p.name.toList))

example : (ofText "./a//b.YAML/").text = "a/b.YAML" := by cbv
example : String.ofList (suffixOf "c.tar.gz".toList) = ".gz" := by cbv
example : suffixOf ".json".toList = [] := by cbv
example : suffixOf "c.".toList = [] := by cbv

end Path

end Settings.File
