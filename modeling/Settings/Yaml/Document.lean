import Settings.Value.Linked
import Settings.Yaml.Tree

/-!
# Reading YAML

A document becomes a value: mappings become maps or sets, sequences become lists, and scalars what
their tags and texts ask for.  A mapping that stands in several places becomes one map in all of
them.  If several parts of a document have no value, the failure nearest to the root counts, and of
those the first.
-/

namespace Settings.Yaml

/-- A part of a document without a value.  A collection is two steps away from one around it. -/
structure Fault where
  depth : Nat
  cause : ReadError

/-- Two results together; of two faults the one nearer to the root, or else the first. -/
def both (x : Except Fault α) (y : Except Fault β) : Except Fault (α × β) :=
  match x, y with
  | .ok a, .ok b => .ok (a, b)
  | .error e, .ok _ => .error e
  | .ok _, .error e => .error e
  | .error e, .error f => .error (if f.depth < e.depth then f else e)

def isCollectionTag (tag : String) : Bool :=
  ["map", "set", "seq", "omap", "pairs"].any (coreTag · == tag)

/-- The keys of a map, as a set. -/
def keySet (entries : LinkedEntries) : Value := .set (entries.map Prod.fst)

mutual

/-- The text of a tree where a scalar is expected.  A mapping stands for its entry under `=`. -/
def Tree.text? : Tree → Option String
  | .scalar _ text => some text
  | .mapping _ _ entries => entriesText? entries
  | _ => none

def entriesText? : List (Tree × Tree) → Option String
  | [] => none
  | (k, v) :: rest => if k.tag == coreTag "value" then v.text? else entriesText? rest

end

/-- The value of a tree where its tag asks for a scalar. -/
def Tree.scalarAt (depth : Nat) (t : Tree) : Except Fault Value :=
  match t.text? with
  | some text => (scalarValue t.tag text).mapError (Fault.mk depth)
  | none => .error ⟨depth, .malformed⟩

mutual

/-- The value of a tree.  Faults in the parts of a collection are `step` further away: one step as a
rule, and none inside a key, which is read as a whole before anything behind it. -/
def Tree.valueAt (step depth : Nat) (t : Tree) : Except Fault Linked :=
  match t with
  | .unmergeable => .error ⟨depth + step, .malformed⟩
  | .scalar tag text =>
      if isCollectionTag tag then .error ⟨depth + step, .malformed⟩
      else (Tree.scalarAt depth (.scalar tag text)).map .ofValue
  | .sequence tag items =>
      if tag == coreTag "seq" then (itemsAt step (depth + step) items).map .list
      else if isPairsTag tag then (pairsAt step (depth + step) items).map .list
      else .error ⟨if isCollectionTag tag then depth + step else depth, .malformed⟩
  | .mapping mark tag entries =>
      if tag == coreTag "map" then
        (entriesAt step (depth + step) entries).map fun es =>
          .map (some mark) (LinkedEntries.ofList es)
      else if tag == coreTag "set" then
        (entriesAt step (depth + step) entries).map fun es =>
          .ofValue (keySet (LinkedEntries.ofList es))
      else if isCollectionTag tag then .error ⟨depth + step, .malformed⟩
      else (Tree.scalarAt depth (.mapping mark tag entries)).map .ofValue

def itemsAt (step depth : Nat) : List Tree → Except Fault (List Linked)
  | [] => .ok []
  | t :: rest =>
      (both (t.valueAt step depth) (itemsAt step depth rest)).map fun (v, vs) => v :: vs

/-- The pairs of a sequence of mappings with one entry each. -/
def pairsAt (step depth : Nat) : List Tree → Except Fault (List Linked)
  | [] => .ok []
  | .mapping _ _ [(k, v)] :: rest =>
      (both (both (k.valueAt step depth) (v.valueAt step depth)) (pairsAt step depth rest)).map
        fun ((k, v), ps) => .list [k, v] :: ps
  | _ :: rest =>
      let fault : Except Fault Linked := .error ⟨depth, .malformed⟩
      (both fault (pairsAt step depth rest)).map Prod.snd

/-- The keys and values of a mapping.  A collection is no key. -/
def entriesAt (step depth : Nat) : List (Tree × Tree) → Except Fault (List (Value × Linked))
  | [] => .ok []
  | (k, v) :: rest =>
      let allowed : Except Fault Unit :=
        if isCollectionTag k.tag then .error ⟨depth, .malformed⟩ else .ok ()
      let key := (both (k.valueAt 0 depth) allowed).map fun (k, _) => k.toValue
      (both (both key (v.valueAt step depth)) (entriesAt step depth rest)).map
        fun (e, es) => e :: es

end

/-- Reads a document; a text without one stands for null. -/
def read (text : String) : Except ReadError Linked :=
  match tokens text.toList with
  | .error .malformed => .error .malformed
  | .error (.noCharacter n) => .error (.noCharacter n)
  | .ok tokens =>
      match readDocument tokens with
      | none => .error .malformed
      | some none => .ok (.ofValue .null)
      | some (some n) => ((n.tree.valueAt 1 0).map .dropSingleMarks).mapError Fault.cause

end Settings.Yaml
