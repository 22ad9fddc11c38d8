import Settings.Yaml.Layout

/-!
# From tokens to nodes

A document is a tree of nodes, each a scalar, a sequence or a mapping with a tag.  An alias stands
for the node with its anchor, which comes before it.  A scalar without a tag gets its tag from its
text later on.  A mapping has a mark, by which it is recognised wherever an alias repeats it: the
number of tokens from its start to the end, which no other mapping has.
-/

namespace Settings.Yaml

/-- The tag of a node: none, or a full one. -/
inductive Tag where
  /-- No tag.  The text of the node may stand for more than a text. -/
  | plain
  /-- No tag.  The text of the node is a text. -/
  | quoted
  | named (name : String)
  deriving DecidableEq, Repr

inductive Node where
  | scalar (tag : Tag) (text : String)
  | sequence (tag : Tag) (items : List Node)
  | mapping (mark : Nat) (tag : Tag) (entries : List (Node × Node))

structure Reading where
  tokens : List Token
  /-- The anchors; a node that is still being read has none yet. -/
  anchors : List (String × Option Node) := []
  handles : List (String × String)

namespace Reading

/-- Without the first token. -/
def next (r : Reading) : Reading := { r with tokens := r.tokens.tail }

def isAt (r : Reading) (t : Token) : Bool := r.tokens.head? == some t

def isAtOneOf (r : Reading) (ts : List Token) : Bool := ts.any r.isAt

/-- The full name of a tag.  Its handle must have been declared. -/
def resolveTag (r : Reading) (handle : Option String) (suffix : String) : Option String :=
  match handle with
  | none => some suffix
  | some h => (r.handles.find? (·.1 == h)).map fun (_, start) => start ++ suffix

/-- Reads an anchor and a tag, in either order, as far as they are there. -/
def properties (r : Reading) : Option (Option String × Option String × Reading) :=
  let tagged (r : Reading) : Option (Option String × Reading) :=
    match r.tokens with
    | .tag handle suffix :: _ => (r.resolveTag handle suffix).map fun t => (some t, r.next)
    | _ => some (none, r)
  match r.tokens with
  | .anchor name :: _ => (tagged r.next).map fun (tag, r) => (some name, tag, r)
  | .tag .. :: _ => do
      let (tag, r) ← tagged r
      match r.tokens with
      | .anchor name :: _ => return (some name, tag, r.next)
      | _ => return (none, tag, r)
  | _ => some (none, none, r)

/-- The tag of a collection; a lone exclamation mark says nothing. -/
def collectionTag : Option String → Tag
  | some t => if t == "!" then .plain else .named t
  | none => .plain

/-- The tag of a scalar; a lone exclamation mark makes it one like a plain scalar. -/
def scalarTag (isPlain : Bool) : Option String → Tag
  | some t => if t == "!" then .plain else .named t
  | none => if isPlain then .plain else .quoted

/-- Announces an anchor, which must be new. -/
def announce (r : Reading) : Option String → Option Reading
  | none => some r
  | some name =>
      if r.anchors.any (·.1 == name) then none
      else some { r with anchors := (name, none) :: r.anchors }

def settle (r : Reading) (anchor : Option String) (n : Node) : Reading :=
  match anchor with
  | none => r
  | some name =>
      { r with anchors := r.anchors.map fun a => if a.1 == name then (name, some n) else a }

/-- A scalar without text. -/
def empty : Node := .scalar .plain ""

end Reading

open Reading in
mutual

/-- Reads a node.  `block` allows block collections, `indentless` a sequence whose entries stand in
the column of the mapping around it. -/
def readNode (block indentless : Bool) (r : Reading) : Nat → Option (Node × Reading)
  | 0 => none
  | fuel + 1 =>
      match r.tokens with
      | .alias name :: _ =>
          match r.anchors.find? (·.1 == name) with
          | some (_, some n) => some (n, r.next)
          | _ => none
      | _ => do
          let (anchor, tag, r) ← r.properties
          let r ← r.announce anchor
          let (n, r) ← readContent block indentless (anchor.isSome || tag.isSome) tag r fuel
          return (n, r.settle anchor n)

/-- Reads what follows the anchor and the tag of a node.  If there are any it may be nothing. -/
def readContent (block indentless mayBeEmpty : Bool) (tag : Option String) (r : Reading) :
    Nat → Option (Node × Reading)
  | 0 => none
  | fuel + 1 =>
      let sequence (x : Option (List Node × Reading)) : Option (Node × Reading) :=
        x.map fun (items, r) => (.sequence (collectionTag tag) items, r)
      let mapping (x : Option (List (Node × Node) × Reading)) : Option (Node × Reading) :=
        x.map fun (entries, rest) =>
          (.mapping r.tokens.length (collectionTag tag) entries, rest)
      let nothing : Option (Node × Reading) :=
        if mayBeEmpty then some (.scalar (scalarTag true tag) "", r) else none
      match r.tokens with
      | .blockEntry :: _ => if indentless then sequence (readIndentless r fuel) else nothing
      | .scalar text isPlain :: _ => some (.scalar (scalarTag isPlain tag) text, r.next)
      | .flowSequenceStart :: _ => sequence (readFlowItems true r.next fuel)
      | .flowMappingStart :: _ => mapping (readFlowEntries true r.next fuel)
      | .blockSequenceStart :: _ => if block then sequence (readItems r.next fuel) else nothing
      | .blockMappingStart :: _ => if block then mapping (readEntries r.next fuel) else nothing
      | _ => nothing

/-- Reads a node unless one of the given tokens comes next, which leaves an empty one. -/
def readUnless (stops : List Token) (block indentless : Bool) (r : Reading) :
    Nat → Option (Node × Reading)
  | 0 => none
  | fuel + 1 => if r.isAtOneOf stops then some (empty, r) else readNode block indentless r fuel

def readItems (r : Reading) : Nat → Option (List Node × Reading)
  | 0 => none
  | fuel + 1 =>
      if r.isAt .blockEntry then do
        let (n, r) ← readUnless [.blockEntry, .blockEnd] true false r.next fuel
        let (ns, r) ← readItems r fuel
        return (n :: ns, r)
      else if r.isAt .blockEnd then some ([], r.next)
      else none

/-- Reads the rest of a sequence that has no column of its own. -/
def readIndentless (r : Reading) : Nat → Option (List Node × Reading)
  | 0 => none
  | fuel + 1 =>
      if r.isAt .blockEntry then do
        let (n, r) ← readUnless [.blockEntry, .key, .value, .blockEnd] true false r.next fuel
        let (ns, r) ← readIndentless r fuel
        return (n :: ns, r)
      else some ([], r)

def readEntries (r : Reading) : Nat → Option (List (Node × Node) × Reading)
  | 0 => none
  | fuel + 1 =>
      if r.isAt .key then do
        let stops : List Token := [.key, .value, .blockEnd]
        let (k, r) ← readUnless stops true true r.next fuel
        let (v, r) ←
          if r.isAt .value then readUnless stops true true r.next fuel else some (empty, r)
        let (es, r) ← readEntries r fuel
        return ((k, v) :: es, r)
      else if r.isAt .blockEnd then some ([], r.next)
      else none

/-- Reads the value behind a key between brackets, if there is a colon. -/
def readFlowValue (closing : Token) (r : Reading) : Nat → Option (Node × Reading)
  | 0 => none
  | fuel + 1 =>
      if r.isAt .value then readUnless [.flowEntry, closing] false false r.next fuel
      else some (empty, r)

/-- Reads the rest of a sequence between brackets.  An item with a colon is a mapping. -/
def readFlowItems (first : Bool) (r : Reading) : Nat → Option (List Node × Reading)
  | 0 => none
  | fuel + 1 =>
      if r.isAt .flowSequenceEnd then some ([], r.next)
      else if !first && !r.isAt .flowEntry then none
      else
        let r := if first then r else r.next
        if r.isAt .flowSequenceEnd then some ([], r.next)
        else do
          let (n, r) ←
            if r.isAt .key then do
              let mark := r.tokens.length
              let (k, r) ← readUnless [.value, .flowEntry, .flowSequenceEnd] false false r.next fuel
              let (v, r) ← readFlowValue .flowSequenceEnd r fuel
              pure (Node.mapping mark .plain [(k, v)], r)
            else readNode false false r fuel
          let (ns, r) ← readFlowItems false r fuel
          return (n :: ns, r)

/-- Reads the rest of a mapping between brackets.  A key without a colon has an empty value. -/
def readFlowEntries (first : Bool) (r : Reading) : Nat → Option (List (Node × Node) × Reading)
  | 0 => none
  | fuel + 1 =>
      if r.isAt .flowMappingEnd then some ([], r.next)
      else if !first && !r.isAt .flowEntry then none
      else
        let r := if first then r else r.next
        if r.isAt .flowMappingEnd then some ([], r.next)
        else do
          let (e, r) ←
            if r.isAt .key then do
              let (k, r) ← readUnless [.value, .flowEntry, .flowMappingEnd] false false r.next fuel
              let (v, r) ← readFlowValue .flowMappingEnd r fuel
              pure ((k, v), r)
            else do
              let (k, r) ← readNode false false r fuel
              pure ((k, Reading.empty), r)
          let (es, r) ← readFlowEntries false r fuel
          return (e :: es, r)

end

/-- The handles that are there without a directive. -/
def standardHandles : List (String × String) :=
  [("!", "!"), ("!!", "tag:yaml.org,2002:")]

/-- Reads the directives in front of a document.  The version must be 1 and given at most once, and
no handle may be declared twice. -/
def readDirectives (versionSeen : Bool) (handles : List (String × String)) :
    List Token → Option (List (String × String) × List Token)
  | .directive (.version major) :: rest =>
      if versionSeen || major != 1 then none else readDirectives true handles rest
  | .directive (.tagPrefix handle start) :: rest =>
      if handles.any (·.1 == handle) then none
      else readDirectives versionSeen ((handle, start) :: handles) rest
  | .directive .reserved :: rest => readDirectives versionSeen handles rest
  | rest => some (handles ++ standardHandles, rest)

def isDocumentToken : Token → Bool
  | .directive _ | .documentStart | .documentEnd => true
  | _ => false

/-- Reads the only document of a text; `none` inside for a text without one. -/
def readDocument (tokens : List Token) : Option (Option Node) :=
  let fuel := 4 * tokens.length + 8
  let finish (n : Node) (r : Reading) : Option (Option Node) :=
    if (r.tokens.dropWhile (· == .documentEnd)).isEmpty then some (some n) else none
  let content (tokens : List Token) (handles : List (String × String)) : Option (Option Node) := do
    let (n, r) ← readNode true false { tokens, handles } fuel
    finish n r
  match tokens with
  | [] => some none
  | .directive _ :: _ | .documentStart :: _ =>
      match readDirectives false [] tokens with
      | some (handles, .documentStart :: rest) =>
          if rest.head?.all isDocumentToken then finish Reading.empty { tokens := rest, handles }
          else content rest handles
      | _ => none
  | _ => content tokens standardHandles

end Settings.Yaml
