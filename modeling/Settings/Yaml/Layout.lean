import Settings.Yaml.Token.Block
import Settings.Yaml.Token.Plain
import Settings.Yaml.Token.Tag

/-!
# From text to tokens

Indentation opens and closes block collections.  That a scalar was the key of a mapping shows only
when a colon follows it on its line.  Places where a key may start are therefore kept in mind, and
the tokens that announce a key are put in later, in front of the token that turned out to be one.
-/

namespace Settings.Yaml

/-- Why a text has no tokens. -/
inductive LayoutError where
  | malformed
  /-- A quoted scalar with an escape for a number that no character has. -/
  | noCharacter (number : Nat)
  deriving DecidableEq, Repr

structure KeyPlace where
  depth : Nat
  /-- How many tokens come before it. -/
  position : Nat
  /-- Whether the text is wrong if it is no key. -/
  isRequired : Bool
  index : Nat
  line : Nat
  column : Nat

structure Layout where
  cursor : Cursor
  /-- The tokens so far, latest first, without those that announce keys. -/
  tokens : List Token := []
  count : Nat := 0
  /-- Before which tokens a key is announced, latest first, and whether a mapping starts with it. -/
  announced : List (Nat × Bool) := []
  indent : Int := -1
  /-- The columns of the collections around it, innermost first. -/
  indents : List Int := []
  depth : Nat := 0
  keyAllowed : Bool := true
  /-- Where keys may have started, at most one place for each depth. -/
  keyPlaces : List KeyPlace := []

namespace Layout

def inFlow (l : Layout) : Bool := l.depth != 0

def push (l : Layout) (t : Token) : Layout :=
  { l with tokens := t :: l.tokens, count := l.count + 1 }

/-- Adds a token that is `n` characters long. -/
def take (l : Layout) (n : Nat) (t : Token) : Layout :=
  { l.push t with cursor := l.cursor.skip n }

/-- Closes the block collections that are indented more than `column`. -/
def closeTo (column : Int) (l : Layout) : List Int → Layout
  | [] => { l with indents := [] }
  | outer :: rest =>
      if column < l.indent then closeTo column { l.push .blockEnd with indent := outer } rest
      else { l with indents := outer :: rest }

/-- Closes block collections; between brackets indentation means nothing. -/
def unwind (l : Layout) (column : Int) : Layout :=
  if l.inFlow then l else closeTo column l l.indents

/-- Opens a block collection at a column unless there is one already; tells whether it did. -/
def openAt (l : Layout) (column : Int) : Bool × Layout :=
  if l.indent < column then (true, { l with indents := l.indent :: l.indents, indent := column })
  else (false, l)

/-- Opens a block collection at the cursor with its token. -/
def openBlock (l : Layout) (t : Token) : Layout :=
  match l.openAt l.cursor.column with
  | (true, l) => l.push t
  | (false, l) => l

/-- Forgets the place of a key at the current depth.  It must not be one that had to be a key. -/
def forgetKey? (l : Layout) : Option Layout :=
  if l.keyPlaces.any fun k => k.depth == l.depth && k.isRequired then none
  else some { l with keyPlaces := l.keyPlaces.filter (·.depth != l.depth) }

/-- Forgets the places that are on an earlier line or too far back. -/
def forgetStale? (l : Layout) : Option Layout :=
  let isStale (k : KeyPlace) : Bool := k.line != l.cursor.line || k.index + 1024 < l.cursor.index
  if l.keyPlaces.any fun k => isStale k && k.isRequired then none
  else some { l with keyPlaces := l.keyPlaces.filter fun k => !isStale k }

def noteKey? (l : Layout) : Option Layout :=
  if !l.keyAllowed then some l
  else
    let c := l.cursor
    let place : KeyPlace :=
      { depth := l.depth
        position := l.count
        isRequired := !l.inFlow && l.indent == c.column
        index := c.index
        line := c.line
        column := c.column }
    l.forgetKey?.map fun l => { l with keyPlaces := place :: l.keyPlaces }

/-- Passes blanks, comments and line breaks.  Behind a line break a key may start. -/
def skipBlanks (l : Layout) : Nat → Layout
  | 0 => l
  | fuel + 1 =>
      let c := l.cursor.skipSpaces.skipComment
      match c.lineBreak? with
      | none => { l with cursor := c }
      | some (_, c) =>
          skipBlanks { l with cursor := c, keyAllowed := l.keyAllowed || !l.inFlow } fuel

def outermost? (l : Layout) : Option Layout :=
  (l.unwind (-1)).forgetKey?.map fun l => { l with keyAllowed := false }

def openFlow? (l : Layout) (t : Token) : Option Layout :=
  l.noteKey?.map fun l => { l.take 1 t with depth := l.depth + 1, keyAllowed := true }

def closeFlow? (l : Layout) (t : Token) : Option Layout :=
  l.forgetKey?.map fun l => { l.take 1 t with depth := l.depth - 1, keyAllowed := false }

def flowEntry? (l : Layout) : Option Layout :=
  l.forgetKey?.map fun l => { l.take 1 .flowEntry with keyAllowed := true }

def blockEntry? (l : Layout) : Option Layout := do
  if !l.inFlow && !l.keyAllowed then none
  let l := if l.inFlow then l else l.openBlock .blockSequenceStart
  let l ← l.forgetKey?
  return { l.take 1 .blockEntry with keyAllowed := true }

def explicitKey? (l : Layout) : Option Layout := do
  if !l.inFlow && !l.keyAllowed then none
  let l := if l.inFlow then l else l.openBlock .blockMappingStart
  let l ← l.forgetKey?
  return { l.take 1 .key with keyAllowed := !l.inFlow }

/-- A colon.  If a key may have started before it on this level, that was one. -/
def value? (l : Layout) : Option Layout :=
  match l.keyPlaces.find? (·.depth == l.depth) with
  | some k =>
      let l := { l with keyPlaces := l.keyPlaces.filter (·.depth != l.depth) }
      let (opens, l) := if l.inFlow then (false, l) else l.openAt k.column
      let l := { l with announced := (k.position, opens) :: l.announced }
      some { l.take 1 .value with keyAllowed := false }
  | none => do
      if !l.inFlow && !l.keyAllowed then none
      let l := if l.inFlow then l else l.openBlock .blockMappingStart
      let l ← l.forgetKey?
      return { l.take 1 .value with keyAllowed := !l.inFlow }

/-- Adds a token that has been read up to `c` and may be a key. -/
def content? (l : Layout) (t : Token) (c : Cursor) (keyAllowed : Bool := false) : Option Layout :=
  l.noteKey?.map fun l => { l.push t with cursor := c, keyAllowed }

def block? (l : Layout) (folded : Bool) : Option Layout := do
  let l ← l.forgetKey?
  let (text, c) ← blockScalar? folded l.indent l.cursor
  return { l.push (.scalar text false) with cursor := c, keyAllowed := true }

def atPlain (l : Layout) (ch : Char) : Bool :=
  !(l.cursor.atBlank || "-?:,[]\x7b\x7d#&*!|>'\"%@\x60".toList.contains ch)
    || (!l.cursor.atBlank 1 && (ch == '-' || (!l.inFlow && (ch == '?' || ch == ':'))))

/-- The next token, which starts with `ch`, if that is not a quoted scalar. -/
def token? (l : Layout) (ch : Char) : Option Layout :=
  let c := l.cursor
  if ch == '%' && c.column == 0 then do
    let l ← l.outermost?
    let (t, c) ← directive? c
    return { l.push t with cursor := c }
  else if ch == '-' && c.column == 0 && c.atSeparator then
    l.outermost?.map (·.take 3 .documentStart)
  else if ch == '.' && c.column == 0 && c.atSeparator then
    l.outermost?.map (·.take 3 .documentEnd)
  else if ch == '[' then l.openFlow? .flowSequenceStart
  else if ch == '\x7b' then l.openFlow? .flowMappingStart
  else if ch == ']' then l.closeFlow? .flowSequenceEnd
  else if ch == '\x7d' then l.closeFlow? .flowMappingEnd
  else if ch == ',' then l.flowEntry?
  else if ch == '-' && c.atBlank 1 then l.blockEntry?
  else if ch == '?' && (l.inFlow || c.atBlank 1) then l.explicitKey?
  else if ch == ':' && (l.inFlow || c.atBlank 1) then l.value?
  else if ch == '*' then (anchorName? c).bind fun (name, c) => l.content? (.alias name) c
  else if ch == '&' then (anchorName? c).bind fun (name, c) => l.content? (.anchor name) c
  else if ch == '!' then (tag? c).bind fun (t, c) => l.content? t c
  else if ch == '|' && !l.inFlow then l.block? false
  else if ch == '>' && !l.inFlow then l.block? true
  else if l.atPlain ch then
    let (text, lineEnded, c) := plain l.inFlow (l.indent + 1) c
    l.content? (.scalar text true) c lineEnded
  else none

def step (l : Layout) (ch : Char) : Except LayoutError Layout :=
  let refuse {α : Type} (x : Option α) : Except LayoutError α :=
    match x with
    | some a => .ok a
    | none => .error .malformed
  if ch == '\'' || ch == '"' then
    match quoted (ch == '"') l.cursor with
    | .ok (text, c) => refuse (l.content? (.scalar text false) c)
    | .error .malformed => .error .malformed
    | .error (.noCharacter n) => .error (.noCharacter n)
  else refuse (l.token? ch)

/-- Puts in the tokens that announce keys; both lists are latest first, and `count` is the number of
`tokens`. -/
def splice (announced : List (Nat × Bool)) (count : Nat) (done : List Token) :
    List Token → List Token
  | [] => done
  | t :: ts =>
      let opening : List Token :=
        match announced.find? (·.1 == count - 1) with
        | some (_, true) => [.blockMappingStart, .key]
        | some (_, false) => [.key]
        | none => []
      splice announced (count - 1) (opening ++ t :: done) ts

/-- All tokens from here on.  Every step passes at least one character, so `fuel` is not needed
beyond their number. -/
def run (l : Layout) : Nat → Except LayoutError (List Token)
  | 0 => .error .malformed
  | fuel + 1 =>
      let l := l.skipBlanks (l.cursor.rest.length + 1)
      match l.forgetStale? with
      | none => .error .malformed
      | some l =>
          let l := l.unwind l.cursor.column
          match l.cursor.rest with
          | [] =>
              match l.outermost? with
              | none => .error .malformed
              | some l => .ok (splice l.announced l.count [] l.tokens)
          | ch :: _ =>
              match l.step ch with
              | .error e => .error e
              | .ok l => run l fuel

end Layout

/-- Splits a text into tokens.  A byte order mark in front of it is passed over. -/
def tokens (text : List Char) : Except LayoutError (List Token) :=
  if !text.all isPrintable then .error .malformed
  else
    let start : Cursor := { rest := text }
    let cursor := if text.head? == some '\uFEFF' then start.next else start
    Layout.run { cursor } (text.length + 2)

end Settings.Yaml
