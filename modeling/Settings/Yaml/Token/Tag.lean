import Settings.Json.Reader
import Settings.Text.Utf8
import Settings.Yaml.Token

/-!
# Tags, anchors and directives

The tokens that are introduced by an exclamation mark, an ampersand, an asterisk or a percent sign.
-/

namespace Settings.Yaml

def isNameChar (c : Char) : Bool :=
  c.isAlphanum || c == '-' || c == '_'

/-- The characters of a tag, apart from escapes. -/
def isTagChar (c : Char) : Bool :=
  c.isAlphanum || "-;/?:@&=+$,_.!~*'()[]".toList.contains c

/-- Reads the name of an anchor or an alias; the cursor is at its indicator. -/
def anchorName? (c : Cursor) : Option (String × Cursor) :=
  let (name, c) := c.next.span isNameChar
  let isEnd (ch : Char) := "?:,]\x7d%@\x60".toList.contains ch
  if name.isEmpty then none
  else if c.atBlank || c.endsAt 0 isEnd then some (String.ofList name, c)
  else none

/-- Reads the octets of escapes, each a percent sign and two hexadecimal digits. -/
def escapedOctets? : List Char → Option (List UInt8 × List Char)
  | '%' :: a :: b :: rest => do
      let n := (← Json.hexDigit? a) * 16 + (← Json.hexDigit? b)
      let (octets, rest) ← escapedOctets? rest
      return (UInt8.ofNat n :: octets, rest)
  | '%' :: _ => none
  | rest => some ([], rest)

/-- Reads the text of a tag.  Escapes that follow each other are the octets of a text in UTF-8. -/
def tagText? (cs : List Char) : Nat → Option (List Char × List Char)
  | 0 => some ([], cs)
  | fuel + 1 =>
      match cs with
      | '%' :: _ => do
          let (octets, rest) ← escapedOctets? cs
          let text ← (Text.decodeUtf8 octets).toOption
          let (more, rest) ← tagText? rest fuel
          return (text ++ more, rest)
      | c :: rest =>
          if isTagChar c then (tagText? rest fuel).map fun (more, rest) => (c :: more, rest)
          else some ([], cs)
      | [] => some ([], [])

/-- Reads a tag or the start of one; it must not be empty. -/
def tagUri? (c : Cursor) : Option (String × Cursor) := do
  let (text, rest) ← tagText? c.rest (c.rest.length + 1)
  if rest.length == c.rest.length then none
  else return (String.ofList text, c.skip (c.rest.length - rest.length))

/-- Reads a handle: an exclamation mark, alone or with a name and a second one behind it. -/
def tagHandle? (c : Cursor) : Option (String × Cursor) :=
  if c.peek? != some '!' then none
  else if c.peek? 1 == some ' ' then some ("!", c.next)
  else
    let (name, c) := c.next.span isNameChar
    if c.peek? == some '!' then some ("!" ++ String.ofList name ++ "!", c.next) else none

/-- Reads a tag; the cursor is at its exclamation mark. -/
def tag? (c : Cursor) : Option (Token × Cursor) := do
  let (token, c) ←
    if c.peek? 1 == some '<' then do
      let (text, c) ← tagUri? (c.skip 2)
      if c.peek? != some '>' then none
      pure (Token.tag none text, c.next)
    else if c.atBlank 1 then pure (Token.tag none "!", c.next)
    else do
      let word := c.rest.tail.takeWhile fun ch => !(ch == ' ' || isBreak ch)
      let (handle, c) ← if word.contains '!' then tagHandle? c else some ("!", c.next)
      let (text, c) ← tagUri? c
      pure (Token.tag (some handle) text, c)
  if c.atSpace then return (token, c) else none

def directiveNumber? (c : Cursor) : Option (Nat × Cursor) :=
  let (digits, c) := c.span Char.isDigit
  if digits.isEmpty then none
  else some (digits.foldl (fun n d => 10 * n + (d.toNat - '0'.toNat)) 0, c)

/-- Reads what stands behind the name of a directive. -/
def directiveValue? (name : String) (c : Cursor) : Option (Directive × Cursor) :=
  if name == "YAML" then do
    let (major, c) ← directiveNumber? c.skipSpaces
    if c.peek? != some '.' then none
    let (_, c) ← directiveNumber? c.next
    if c.atSpace then return (.version major, c) else none
  else if name == "TAG" then do
    let (handle, c) ← tagHandle? c.skipSpaces
    if c.peek? != some ' ' then none
    let (start, c) ← tagUri? c.skipSpaces
    if c.atSpace then return (.tagPrefix handle start, c) else none
  else some (.reserved, c.skipWhile (!isBreak ·))

/-- Reads a directive with its line; the cursor is at its percent sign. -/
def directive? (c : Cursor) : Option (Token × Cursor) := do
  let (name, c) := c.next.span isNameChar
  if name.isEmpty || !c.atSpace then none
  let (d, c) ← directiveValue? (String.ofList name) c
  let c := c.skipSpaces.skipComment
  if c.atLineEnd then return (.directive d, c.skipBreak) else none

end Settings.Yaml
