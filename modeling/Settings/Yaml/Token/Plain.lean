import Settings.Yaml.Token.Quoted

/-!
# Plain scalars

A plain scalar goes on until something that means something else: a colon in front of a blank, a
comment, a tab, inside brackets also a comma or a bracket.  It goes on over line breaks, which are
folded, as long as the lines are indented.
-/

namespace Settings.Yaml

def isFlowIndicator (c : Char) : Bool :=
  c == ',' || c == '?' || c == '[' || c == ']' || c == '\x7b' || c == '\x7d'

/-- The characters behind which a colon does not belong to a plain scalar between brackets. -/
def isFlowPunctuation (c : Char) : Bool :=
  c == ',' || c == '[' || c == ']' || c == '\x7b' || c == '\x7d'

/-- The characters of a plain scalar up to a blank or its end. -/
def plainWord (inFlow : Bool) : List Char → List Char
  | [] => []
  | ch :: rest =>
      let isBlank (c : Char) := c == ' ' || c == '\t' || isBreak c
      if isBlank ch || (inFlow && isFlowIndicator ch)
          || (ch == ':' && rest.head?.all fun c => isBlank c || (inFlow && isFlowPunctuation c))
      then []
      else ch :: plainWord inFlow rest

/-- Further line breaks behind the first one in a plain scalar; `none` in front of a line that
separates documents. -/
def plainBreaks (c : Cursor) : Nat → Option (List Char) × Cursor
  | 0 => (some [], c)
  | fuel + 1 =>
      let c := c.skipSpaces
      match c.lineBreak? with
      | none => (some [], c)
      | some (b, c) =>
          if c.atSeparator then (none, c)
          else
            let (bs, c) := plainBreaks c fuel
            (bs.map (b :: ·), c)

/-- The blanks behind a word: what they contribute to the scalar, whether a line ended, and the
place behind them.  Nothing is contributed where the scalar ends. -/
def plainBlanks (c : Cursor) : List Char × Bool × Cursor :=
  let (blanks, c) := c.span (· == ' ')
  match c.lineBreak? with
  | none => (blanks, false, c)
  | some (b, c) =>
      if c.atSeparator then ([], true, c)
      else
        match plainBreaks c (c.rest.length + 1) with
        | (none, c) => ([], true, c)
        | (some bs, c) => (foldBreak b bs, true, c)

/-- Reads on in a plain scalar.  `blanks` are those in front of the next word, `done` is what has
been read before them, backwards.  Also tells whether the last thing passed was a line break. -/
def readPlain (inFlow : Bool) (indent : Int) (done blanks : List Char) (lineEnded : Bool)
    (c : Cursor) : Nat → String × Bool × Cursor
  | 0 => (String.ofList done.reverse, lineEnded, c)
  | fuel + 1 =>
      let word := if c.peek? == some '#' then [] else plainWord inFlow c.rest
      if word.isEmpty then (String.ofList done.reverse, lineEnded, c)
      else
        let done := word.reverse ++ blanks.reverse ++ done
        let (blanks, lineEnded, c) := plainBlanks (c.skip word.length)
        if blanks.isEmpty || c.peek? == some '#' || (!inFlow && (c.column : Int) < indent) then
          (String.ofList done.reverse, lineEnded, c)
        else readPlain inFlow indent done blanks lineEnded c fuel

/-- Reads a plain scalar.  Lines that go on have to be indented by at least `indent`. -/
def plain (inFlow : Bool) (indent : Int) (c : Cursor) : String × Bool × Cursor :=
  readPlain inFlow indent [] [] false c (c.rest.length + 1)

end Settings.Yaml
