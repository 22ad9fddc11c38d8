import Settings.Text.Quoted
import Settings.Value.Text

/-!
# Writing JSON

Texts are written in ASCII, with escapes for everything else.  Values that JSON has no form for are
written as their plain text.  Output is on one line, or with a line for each part and two spaces of
indentation for each level.
-/

namespace Settings.Json

/-- The four hexadecimal digits of a 16-bit unit behind its escape. -/
def unitEscape (n : Nat) : List Char :=
  '\\' :: 'u' :: Text.hex 4 n

/-- How one character is written in a JSON text; beyond 16 bits it takes two surrogates. -/
def escapeChar (c : Char) : List Char :=
  if c = '"' ∨ c = '\\' then ['\\', c]
  else if c = '\n' then ['\\', 'n']
  else if c = '\r' then ['\\', 'r']
  else if c = '\t' then ['\\', 't']
  else if c = '\x08' then ['\\', 'b']
  else if c = '\x0c' then ['\\', 'f']
  else if 0x20 ≤ c.toNat ∧ c.toNat < 0x7F then [c]
  else if c.toNat ≤ 0xFFFF then unitEscape c.toNat
  else
    let n := c.toNat - 0x10000
    unitEscape (0xD800 + n / 0x400) ++ unitEscape (0xDC00 + n % 0x400)

def quoted (s : String) : String :=
  String.ofList ('"' :: (s.toList.flatMap escapeChar ++ ['"']))

/-- A float; not-a-number and the infinities have names. -/
def floatText (x : Float) : String :=
  match Double.exact x with
  | .nan => "NaN"
  | .infinite negative => if negative then "-Infinity" else "Infinity"
  | .finite .. => Double.text x

/-- The text of a key, if values of its type can be keys in JSON. -/
def keyText? : Value → Option String
  | .str s => some s
  | .null => some "null"
  | .bool b => some (if b then "true" else "false")
  | .int n => some (toString n)
  | .float x => some (floatText x)
  | _ => none

/-- How the parts of a list or an object are laid out. -/
inductive Layout where
  | oneLine
  | indented
  deriving DecidableEq, Repr

def Layout.enclose (layout : Layout) (level : Nat) (opening closing : String)
    (parts : List String) : String :=
  match layout, parts with
  | _, [] => opening ++ closing
  | .oneLine, _ => opening ++ commaSeparated parts ++ closing
  | .indented, _ =>
      let margin (n : Nat) := "\n" ++ String.ofList (List.replicate (2 * n) ' ')
      opening ++ margin (level + 1) ++ ("," ++ margin (level + 1)).intercalate parts
        ++ margin level ++ closing

mutual

/-- Writes a value at a level of nesting; `none` if a key cannot be written. -/
def write? (layout : Layout) (level : Nat) : Value → Option String
  | .null => some "null"
  | .bool b => some (if b then "true" else "false")
  | .int n => some (toString n)
  | .float x => some (floatText x)
  | .str s => some (quoted s)
  | .list items =>
      (writeItems? layout (level + 1) items).map (layout.enclose level "[" "]")
  | .map entries =>
      (writeEntries? layout (level + 1) entries).map (layout.enclose level "\x7b" "\x7d")
  | v => some (quoted v.display)

def writeItems? (layout : Layout) (level : Nat) : List Value → Option (List String)
  | [] => some []
  | v :: rest => do
      let text ← write? layout level v
      return text :: (← writeItems? layout level rest)

def writeEntries? (layout : Layout) (level : Nat) : List (Value × Value) → Option (List String)
  | [] => some []
  | (k, v) :: rest => do
      let key ← keyText? k
      let text ← write? layout level v
      return (quoted key ++ ": " ++ text) :: (← writeEntries? layout level rest)

end

/-- A value as JSON; what cannot be written is left out. -/
def text (layout : Layout) (v : Value) : String :=
  (write? layout 0 v).getD ""

end Settings.Json
