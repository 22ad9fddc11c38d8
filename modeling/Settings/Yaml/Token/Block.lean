import Settings.Yaml.Token

/-!
# Block scalars

A block scalar is a text of whole lines below its indicator.  Literal ones keep their line breaks,
folded ones join lines by spaces.  A header says how much the lines are indented and what becomes
of the line breaks at the end.
-/

namespace Settings.Yaml

/-- What becomes of the line breaks at the end of a block scalar. -/
inductive Chomping where
  /-- All are dropped. -/
  | strip
  /-- One is kept. -/
  | clip
  /-- All are kept. -/
  | keep
  deriving DecidableEq, Repr

def chomping? : Char → Option Chomping
  | '+' => some .keep
  | '-' => some .strip
  | _ => none

def indentDigit? (c : Char) : Option Nat :=
  if '0' ≤ c ∧ c ≤ '9' then some (c.toNat - '0'.toNat) else none

/-- Reads the header: an indentation and a way of chomping, in either order.  An indentation of zero
is refused. -/
def blockHeader? (c : Cursor) : Option (Chomping × Option Nat × Cursor) :=
  let digitAt (c : Cursor) : Option (Option Nat × Cursor) :=
    match c.peek?.bind indentDigit? with
    | some 0 => none
    | some n => some (some n, c.next)
    | none => some (none, c)
  match c.peek?.bind chomping? with
  | some chomping => (digitAt c.next).map fun (n, c) => (chomping, n, c)
  | none => do
      let (n, c) ← digitAt c
      match n, c.peek?.bind chomping? with
      | some n, some chomping => return (chomping, some n, c.next)
      | n, _ => return (.clip, n, c)

/-- The line breaks in front of the first line and the largest indentation in front of it. -/
def leadingLines (c : Cursor) (deepest : Nat) : Nat → List Char × Nat × Cursor
  | 0 => ([], deepest, c)
  | fuel + 1 =>
      if c.peek? == some ' ' then
        let c := c.next
        leadingLines c (max deepest c.column) fuel
      else
        match c.lineBreak? with
        | none => ([], deepest, c)
        | some (b, c) =>
            let (bs, deepest, c) := leadingLines c deepest fuel
            (b :: bs, deepest, c)

def skipToColumn (indent : Nat) (c : Cursor) : Cursor :=
  c.skip (min (indent - c.column) (c.rest.takeWhile (· == ' ')).length)

/-- The line breaks in front of the next line with something in it. -/
def blockBreaks (indent : Nat) (c : Cursor) : Nat → List Char × Cursor
  | 0 => ([], c)
  | fuel + 1 =>
      let c := skipToColumn indent c
      match c.lineBreak? with
      | none => ([], c)
      | some (b, c) =>
          let (bs, c) := blockBreaks indent c fuel
          (b :: bs, c)

/-- Whether a line of the scalar starts at the cursor. -/
def atBlockLine (indent : Nat) (c : Cursor) : Bool :=
  c.column == indent && !c.rest.isEmpty

/-- Reads the lines.  `breaks` are those in front of the first one; the result is the text up to the
last line, its line break, and the breaks behind that. -/
def blockLines (folded : Bool) (indent : Nat) (breaks : List Char) (c : Cursor) :
    Nat → List Char × List Char × List Char × Cursor
  | 0 => ([], [], breaks, c)
  | fuel + 1 =>
      if !atBlockLine indent c then ([], [], breaks, c)
      else
        let isSpaced (c : Cursor) := c.peek? == some ' ' || c.peek? == some '\t'
        let startsSpaced := isSpaced c
        let (line, c) := c.span (!isBreak ·)
        let (lineBreak, c) := match c.lineBreak? with
          | some (b, c) => ([b], c)
          | none => ([], c)
        let (after, c) := blockBreaks indent c (c.rest.length + 1)
        if !atBlockLine indent c then (breaks ++ line, lineBreak, after, c)
        else
          let join :=
            if folded && lineBreak == ['\n'] && !startsSpaced && !isSpaced c then
              if after.isEmpty then [' '] else []
            else lineBreak
          let (text, lastBreak, tail, c) := blockLines folded indent after c fuel
          (breaks ++ line ++ join ++ text, lastBreak, tail, c)

/-- Reads a block scalar; the cursor is at its indicator, and `indent` is the column of the
collection around it. -/
def blockScalar? (folded : Bool) (indent : Int) (c : Cursor) : Option (String × Cursor) := do
  let (chomping, increment, c) ← blockHeader? c.next
  if !c.atSpace then none
  let c := c.skipSpaces.skipComment
  if !c.atLineEnd then none
  let c := c.skipBreak
  let least := (max (indent + 1) 1).toNat
  let (breaks, column, c) : List Char × Nat × Cursor :=
    match increment with
    | none =>
        let (breaks, deepest, c) := leadingLines c 0 (c.rest.length + 1)
        (breaks, max least deepest, c)
    | some n =>
        let column := least + n - 1
        let (breaks, c) := blockBreaks column c (c.rest.length + 1)
        (breaks, column, c)
  let (text, lastBreak, tail, c) := blockLines folded column breaks c (c.rest.length + 1)
  let ending := match chomping with
    | .strip => []
    | .clip => lastBreak
    | .keep => lastBreak ++ tail
  return (String.ofList (text ++ ending), c)

end Settings.Yaml
