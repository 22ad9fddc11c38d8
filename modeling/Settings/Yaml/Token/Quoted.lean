import Settings.Json.Reader
import Settings.Yaml.Token

/-!
# Quoted scalars

Between single quotes only the quote itself is written specially, by doubling it.  Between double
quotes a backslash starts an escape.  A line break inside is folded into a space, and of several
line breaks the first is dropped.
-/

namespace Settings.Yaml

inductive QuotedError where
  | malformed
  /-- An escape for a number that no character has. -/
  | noCharacter (number : Nat)
  deriving DecidableEq, Repr

/-- The characters of the escapes that are one letter long. -/
def letterEscape? : Char → Option Char
  | '0' => some '\x00'
  | 'a' => some '\x07'
  | 'b' => some '\x08'
  | 't' | '\t' => some '\t'
  | 'n' => some '\n'
  | 'v' => some '\x0b'
  | 'f' => some '\x0c'
  | 'r' => some '\r'
  | 'e' => some '\x1b'
  | ' ' => some ' '
  | '"' => some '"'
  | '\\' => some '\\'
  | '/' => some '/'
  | 'N' => some '\u0085'
  | '_' => some '\u00A0'
  | 'L' => some '\u2028'
  | 'P' => some '\u2029'
  | _ => none

def numberEscape? : Char → Option Nat
  | 'x' => some 2
  | 'u' => some 4
  | 'U' => some 8
  | _ => none

/-- The number written by hexadecimal digits, if all of the characters are such digits. -/
def hexNumber? (cs : List Char) : Option Nat :=
  cs.foldlM (fun n c => (Json.hexDigit? c).map (16 * n + ·)) 0

/-- The character of a number; a surrogate has none and becomes the replacement character. -/
def charOfNumber (n : Nat) : Except QuotedError Char :=
  if 0x110000 ≤ n then .error (.noCharacter n)
  else if 0xD800 ≤ n ∧ n < 0xE000 then .ok '\uFFFD'
  else .ok (Char.ofNat n)

/-- Behind a line break inside a scalar: further line breaks, with the blanks around them dropped.
A line that separates documents must not come. -/
def foldedBreaks (c : Cursor) : Nat → Except QuotedError (List Char × Cursor)
  | 0 => .ok ([], c)
  | fuel + 1 =>
      if c.atSeparator then .error .malformed
      else
        let c := c.skipWhile fun ch => ch == ' ' || ch == '\t'
        match c.lineBreak? with
        | none => .ok ([], c)
        | some (b, c) => (foldedBreaks c fuel).map fun (bs, c) => (b :: bs, c)

/-- What a line break and the breaks behind it contribute. -/
def foldBreak (b : Char) (bs : List Char) : List Char :=
  if b ≠ '\n' then b :: bs else if bs.isEmpty then [' '] else bs

/-- Reads on in a quoted scalar; `done` are the characters so far, backwards. -/
def readQuoted (double : Bool) (done : List Char) (c : Cursor) :
    Nat → Except QuotedError (String × Cursor)
  | 0 => .error .malformed
  | fuel + 1 =>
      match c.rest with
      | [] => .error .malformed
      | '\'' :: rest =>
          if double then readQuoted double ('\'' :: done) c.next fuel
          else if rest.head? == some '\'' then readQuoted double ('\'' :: done) (c.skip 2) fuel
          else .ok (String.ofList done.reverse, c.next)
      | '"' :: _ =>
          if double then .ok (String.ofList done.reverse, c.next)
          else readQuoted double ('"' :: done) c.next fuel
      | '\\' :: rest =>
          if !double then readQuoted double ('\\' :: done) c.next fuel
          else
            match rest with
            | [] => .error .malformed
            | e :: digits =>
                match letterEscape? e, numberEscape? e with
                | some ch, _ => readQuoted double (ch :: done) (c.skip 2) fuel
                | none, some n =>
                    if digits.length < n then .error .malformed
                    else
                      match hexNumber? (digits.take n) with
                      | none => .error .malformed
                      | some number => do
                          let ch ← charOfNumber number
                          readQuoted double (ch :: done) (c.skip (n + 2)) fuel
                | none, none =>
                    match c.next.lineBreak? with
                    | none => .error .malformed
                    | some (_, c) => do
                        let (bs, c) ← foldedBreaks c (c.rest.length + 1)
                        readQuoted double (bs.reverse ++ done) c fuel
      | ch :: _ =>
          if ch == ' ' || ch == '\t' || isBreak ch then
            let (blanks, c) := c.span fun ch => ch == ' ' || ch == '\t'
            match c.rest, c.lineBreak? with
            | [], _ => .error .malformed
            | _, none => readQuoted double (blanks.reverse ++ done) c fuel
            | _, some (b, c) => do
                let (bs, c) ← foldedBreaks c (c.rest.length + 1)
                readQuoted double ((foldBreak b bs).reverse ++ done) c fuel
          else readQuoted double (ch :: done) c.next fuel

/-- Reads a quoted scalar; the cursor is at its opening quote. -/
def quoted (double : Bool) (c : Cursor) : Except QuotedError (String × Cursor) :=
  readQuoted double [] c.next (c.rest.length + 1)

end Settings.Yaml
