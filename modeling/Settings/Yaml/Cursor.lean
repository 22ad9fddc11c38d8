/-!
# Places in a YAML text

A cursor is what is left of a text together with the line and the column reached.  Columns decide
the structure of the text, so every step of reading moves the cursor and nothing else does.
-/

namespace Settings.Yaml

def isBreak (c : Char) : Bool :=
  c == '\n' || c == '\r' || c == '\u0085' || c == '\u2028' || c == '\u2029'

structure Cursor where
  rest : List Char
  index : Nat := 0
  line : Nat := 0
  column : Nat := 0

namespace Cursor

/-- The `n`-th character from here. -/
def peek? (c : Cursor) (n : Nat := 0) : Option Char := c.rest[n]?

/-- One character further.  A carriage return in front of a line feed does not end a line, and a
byte order mark takes no column. -/
def next (c : Cursor) : Cursor :=
  match c.rest with
  | [] => c
  | ch :: rest =>
      let index := c.index + 1
      if isBreak ch && !(ch == '\r' && rest.head? == some '\n') then
        { rest, index, line := c.line + 1, column := 0 }
      else
        { rest, index, line := c.line
          column := if ch == '\uFEFF' then c.column else c.column + 1 }

def skip (c : Cursor) : Nat → Cursor
  | 0 => c
  | n + 1 => c.next.skip n

/-- The characters from here that satisfy `p`, and the place behind them. -/
def span (c : Cursor) (p : Char → Bool) : List Char × Cursor :=
  let found := c.rest.takeWhile p
  (found, c.skip found.length)

/-- Behind the characters that satisfy `p`. -/
def skipWhile (c : Cursor) (p : Char → Bool) : Cursor := (c.span p).2

def skipSpaces (c : Cursor) : Cursor := c.skipWhile (· == ' ')

/-- Whether the `n`-th character is missing or satisfies `p`. -/
def endsAt (c : Cursor) (n : Nat) (p : Char → Bool) : Bool := (c.peek? n).all p

/-- Whether the `n`-th character ends a line, or the text does. -/
def atLineEnd (c : Cursor) (n : Nat := 0) : Bool := c.endsAt n isBreak

/-- Whether the `n`-th character is a space or ends a line, or the text ends. -/
def atSpace (c : Cursor) (n : Nat := 0) : Bool := c.endsAt n fun ch => ch == ' ' || isBreak ch

/-- Whether the `n`-th character is a space or a tab or ends a line, or the text ends. -/
def atBlank (c : Cursor) (n : Nat := 0) : Bool :=
  c.endsAt n fun ch => ch == ' ' || ch == '\t' || isBreak ch

/-- Reads a line break.  All but the line and paragraph separators count as a line feed. -/
def lineBreak? (c : Cursor) : Option (Char × Cursor) :=
  match c.rest with
  | '\r' :: '\n' :: _ => some ('\n', c.skip 2)
  | ch :: _ =>
      if ch == '\u2028' || ch == '\u2029' then some (ch, c.next)
      else if isBreak ch then some ('\n', c.next)
      else none
  | [] => none

/-- Behind a line break, if there is one. -/
def skipBreak (c : Cursor) : Cursor := (c.lineBreak?.map (·.2)).getD c

/-- Behind a comment, if there is one. -/
def skipComment (c : Cursor) : Cursor :=
  if c.peek? == some '#' then c.skipWhile (!isBreak ·) else c

def atSeparator (c : Cursor) : Bool :=
  (c.rest.take 3 == ['-', '-', '-'] || c.rest.take 3 == ['.', '.', '.']) && c.atBlank 3

end Cursor

def isPrintable (c : Char) : Bool :=
  let n := c.toNat
  n == 0x9 || n == 0xA || n == 0xD || (0x20 ≤ n && n ≤ 0x7E) || n == 0x85
    || (0xA0 ≤ n && n ≤ 0xD7FF) || (0xE000 ≤ n && n ≤ 0xFFFD) || 0x10000 ≤ n

end Settings.Yaml
