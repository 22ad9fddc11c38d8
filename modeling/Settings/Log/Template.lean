import Settings.Double.Places
import Settings.Value.Text

/-!
# Message templates

A message is put together from a template and values.  A directive of the template starts with a
percent sign: an optional name in parentheses, flags, a width, a precision and a letter that says
how the value is written.  Two percent signs stand for one.  Without values the template is the
message as it stands.  Where template and values do not fit there is no message.
-/

namespace Settings.Log

/-- A width or a precision: as written, or the next value. -/
inductive Measure where
  | written (n : Nat)
  | given
  deriving DecidableEq, Repr

structure Directive where
  /-- The name of the value, if it is taken by name. -/
  name : Option String
  leftAligned : Bool
  plus : Bool
  blank : Bool
  alternate : Bool
  zero : Bool
  width : Option Measure
  precision : Option Measure
  kind : Char
  deriving DecidableEq, Repr

inductive Piece where
  | char (c : Char)
  | directive (d : Directive)
  deriving DecidableEq, Repr

/-! ### Reading templates -/

/-- The text up to the parenthesis that closes `depth + 1` open ones, and what follows it. -/
def nameAt (depth : Nat) : List Char → Option (List Char × List Char)
  | [] => none
  | '(' :: rest => (nameAt (depth + 1) rest).map fun (n, rest) => ('(' :: n, rest)
  | ')' :: rest =>
      match depth with
      | 0 => some ([], rest)
      | depth + 1 => (nameAt depth rest).map fun (n, rest) => (')' :: n, rest)
  | c :: rest => (nameAt depth rest).map fun (n, rest) => (c :: n, rest)

/-- A name in parentheses, if there is one. -/
def optionalNameAt : List Char → Option (Option String × List Char)
  | '(' :: rest => (nameAt 0 rest).map fun (n, rest) => (some (String.ofList n), rest)
  | cs => some (none, cs)

def isFlag (c : Char) : Bool := c == '-' || c == '+' || c == ' ' || c == '#' || c == '0'

def digitsValue (cs : List Char) : Nat := cs.foldl (fun n c => 10 * n + (c.toNat - '0'.toNat)) 0

def widthAt : List Char → Option Measure × List Char
  | '*' :: rest => (some .given, rest)
  | cs =>
      let digits := cs.takeWhile Char.isDigit
      let width := if digits.isEmpty then none else some (.written (digitsValue digits))
      (width, cs.dropWhile Char.isDigit)

/-- A precision behind its point; without digits it is zero. -/
def precisionAt : List Char → Option Measure × List Char
  | '.' :: '*' :: rest => (some .given, rest)
  | '.' :: rest =>
      (some (.written (digitsValue (rest.takeWhile Char.isDigit))), rest.dropWhile Char.isDigit)
  | cs => (none, cs)

/-- Without a letter for the size of a number, which says nothing. -/
def skipSize : List Char → List Char
  | c :: rest => if c == 'h' || c == 'l' || c == 'L' then rest else c :: rest
  | [] => []

def directiveAt (cs : List Char) : Option (Directive × List Char) := do
  let (name, cs) ← optionalNameAt cs
  let flags := cs.takeWhile isFlag
  let (width, cs) := widthAt (cs.dropWhile isFlag)
  let (precision, cs) := precisionAt cs
  match skipSize cs with
  | [] => none
  | kind :: rest =>
      return ({ name, width, precision, kind, leftAligned := flags.contains '-',
                plus := flags.contains '+', blank := flags.contains ' ',
                alternate := flags.contains '#', zero := flags.contains '0' }, rest)

theorem length_nameAt_le {depth : Nat} {cs n rest : List Char}
    (h : nameAt depth cs = some (n, rest)) : rest.length ≤ cs.length := by
  fun_induction nameAt depth cs generalizing n rest with
  | case1 => simp at h
  | case2 depth tail ih =>
      obtain ⟨⟨n', r⟩, hr, he⟩ := Option.map_eq_some_iff.1 h
      cases he
      exact Nat.le_succ_of_le (ih hr)
  | case3 tail => cases h; simp
  | case4 tail depth ih =>
      obtain ⟨⟨n', r⟩, hr, he⟩ := Option.map_eq_some_iff.1 h
      cases he
      exact Nat.le_succ_of_le (ih hr)
  | case5 depth c tail _ _ ih =>
      obtain ⟨⟨n', r⟩, hr, he⟩ := Option.map_eq_some_iff.1 h
      cases he
      exact Nat.le_succ_of_le (ih hr)

theorem length_optionalNameAt_le {cs rest : List Char} {n : Option String}
    (h : optionalNameAt cs = some (n, rest)) : rest.length ≤ cs.length := by
  unfold optionalNameAt at h
  split at h
  · obtain ⟨⟨n', r⟩, hr, he⟩ := Option.map_eq_some_iff.1 h
    cases he
    exact Nat.le_succ_of_le (length_nameAt_le hr)
  · cases h; simp

theorem length_dropWhile_le (p : Char → Bool) (cs : List Char) :
    (cs.dropWhile p).length ≤ cs.length := (List.dropWhile_suffix p).length_le

theorem length_widthAt_le (cs : List Char) : (widthAt cs).2.length ≤ cs.length := by
  unfold widthAt
  split
  · simp
  · exact length_dropWhile_le ..

theorem length_precisionAt_le (cs : List Char) : (precisionAt cs).2.length ≤ cs.length := by
  unfold precisionAt
  split
  · simp only [List.length_cons]; omega
  · exact Nat.le_succ_of_le (length_dropWhile_le ..)
  · simp

theorem length_skipSize_le (cs : List Char) : (skipSize cs).length ≤ cs.length := by
  unfold skipSize
  split
  · split <;> simp
  · simp

/-- A directive has at least one character. -/
theorem length_directiveAt_lt {cs rest : List Char} {d : Directive}
    (h : directiveAt cs = some (d, rest)) : rest.length < cs.length := by
  simp only [directiveAt, Option.bind_eq_bind, Option.bind_eq_some_iff] at h
  obtain ⟨⟨n, tail⟩, hn, h⟩ := h
  have h1 := length_optionalNameAt_le hn
  have h2 := length_dropWhile_le isFlag tail
  have h3 := length_widthAt_le (tail.dropWhile isFlag)
  have h4 := length_precisionAt_le (widthAt (tail.dropWhile isFlag)).2
  have h5 := length_skipSize_le (precisionAt (widthAt (tail.dropWhile isFlag)).2).2
  split at h
  · simp at h
  · next hs =>
      rw [hs] at h5
      simp only [Option.pure_def, Option.some.injEq, Prod.mk.injEq] at h
      obtain ⟨_, rfl⟩ := h
      simp only [List.length_cons] at h5
      omega

def pieces? (cs : List Char) : Option (List Piece) :=
  match cs with
  | [] => some []
  | '%' :: '%' :: rest => (pieces? rest).map (.char '%' :: ·)
  | '%' :: rest =>
      match h : directiveAt rest with
      | none => none
      | some (d, rest') =>
          have := length_directiveAt_lt h
          (pieces? rest').map (.directive d :: ·)
  | c :: rest => (pieces? rest).map (.char c :: ·)
  termination_by cs.length

/-! ### Writing values -/

def wholePart? : Value → Option Int
  | .float x =>
      match Double.exact x with
      | .finite negative m e =>
          let n : Nat := if 0 ≤ e then m * Nat.pow 2 e.toNat else m / Nat.pow 2 (-e).toNat
          some (if negative then -(n : Int) else n)
      | _ => none
  | v => v.integer?

def double? : Value → Option Float
  | .float x => some x
  | v => v.integer?.bind Double.ofInt?

def codePoint? (n : Int) : Option Char :=
  if 0 ≤ n ∧ n < 0x110000 then some (Char.ofNat n.toNat) else none

def asciiEscape (c : Char) : List Char :=
  if c.toNat < 0x80 then [c]
  else if c.toNat ≤ 0xFF then '\\' :: 'x' :: Text.hex 2 c.toNat
  else if c.toNat ≤ 0xFFFF then '\\' :: 'u' :: Text.hex 4 c.toNat
  else '\\' :: 'U' :: Text.hex 8 c.toNat

/-- The first `n` characters; all of them without a limit. -/
def limited (n : Option Nat) (cs : List Char) : List Char := n.elim cs cs.take

/-- A written value: a sign if it is a negative number, a mark of the base, and the rest. -/
structure Written where
  sign : Option Char := none
  mark : List Char := []
  body : List Char
  /-- Only numbers get signs and are filled up with zeros. -/
  isNumber : Bool := false

/-- The mark of a base, for the letter that asks for it. -/
def baseMark (kind : Char) : List Char :=
  if kind == 'x' || kind == 'X' || kind == 'o' then ['0', kind] else []

/-- A whole number with at least so many digits. -/
def writtenInteger (d : Directive) (precision : Option Nat) (n : Int) : Written :=
  let base := if d.kind == 'o' then 8 else if d.kind == 'x' || d.kind == 'X' then 16 else 10
  let digits := Nat.toDigits base n.natAbs
  let digits := if d.kind == 'X' then digits.map Char.toUpper else digits
  { sign := if n < 0 then some '-' else none
    mark := if d.alternate then baseMark d.kind else []
    body := List.replicate (precision.getD 0 - digits.length) '0' ++ digits
    isNumber := true }

/-- A double in one of the three forms; the letter's case is that of all letters. -/
def writtenDouble (d : Directive) (precision : Option Nat) (x : Float) : Written :=
  let places := precision.getD 6
  let kind := d.kind.toLower
  let (negative, body) : Bool × List Char := match Double.exact x with
    | .nan => (false, "nan".toList)
    | .infinite negative => (negative, "inf".toList)
    | .finite negative m q =>
        (negative,
          if kind == 'f' then Double.fixedText d.alternate m q places
          else if kind == 'e' then Double.scientificText d.alternate m q places
          else Double.generalText d.alternate m q places)
  { sign := if negative then some '-' else none
    body := if d.kind.isUpper then body.map Char.toUpper else body
    isNumber := true }

/-- A value in the form that a directive asks for. -/
def written? (d : Directive) (precision : Option Nat) (v : Value) : Option Written :=
  let asText (s : String) : Option Written := some { body := limited precision s.toList }
  match d.kind with
  | 's' => asText v.display
  | 'r' => asText v.shown
  | 'a' => some { body := limited precision (v.shown.toList.flatMap asciiEscape) }
  | 'd' | 'i' | 'u' => (wholePart? v).map (writtenInteger d precision)
  | 'x' | 'X' | 'o' => v.integer?.map (writtenInteger d precision)
  | 'e' | 'E' | 'f' | 'F' | 'g' | 'G' => (double? v).map (writtenDouble d precision)
  | 'c' =>
      match v with
      | .str s => if s.length = 1 then some { body := s.toList } else none
      | _ => (v.integer?.bind codePoint?).map fun c => { body := [c] }
  | _ => none

/-- Fills a written value up to a width: zeros stand behind the sign and the mark, blanks in front
of them or at the end. -/
def fill (d : Directive) (leftAligned : Bool) (width : Nat) (w : Written) : List Char :=
  let sign : List Char := match w.sign with
    | some c => [c]
    | none => if !w.isNumber then [] else if d.plus then ['+'] else if d.blank then [' '] else []
  let front := sign ++ w.mark
  let missing := width - (front.length + w.body.length)
  if leftAligned then front ++ w.body ++ List.replicate missing ' '
  else if d.zero && w.isNumber then front ++ List.replicate missing '0' ++ w.body
  else List.replicate missing ' ' ++ front ++ w.body

/-! ### Taking values -/

/-- The values that are left, and the map that names are looked up in. -/
structure Supply where
  items : List Value
  named : Option Entries

/-- The values of a message.  A single map that is not empty also gives values by their names. -/
def Supply.ofValues : List Value → Supply
  | [.map (e :: es)] => { items := [.map (e :: es)], named := some (e :: es) }
  | vs => { items := vs, named := none }

def Supply.next (s : Supply) : Option (Value × Supply) :=
  match s.items with
  | v :: rest => some (v, { s with items := rest })
  | [] => none

def Supply.nextInteger (s : Supply) : Option (Int × Supply) := do
  let (v, s) ← s.next
  match v with
  | .int n => return (n, s)
  | .bool b => return (if b then 1 else 0, s)
  | _ => none

def maxWidth : Nat := 0x7FFFFFFFFFFFFFFF
def maxPrecision : Nat := 0x7FFFFFFF

/-- A measure up to a limit, taken from the values if it is not written. -/
def Supply.measure (s : Supply) (limit : Nat) : Option Measure → Option (Option Int × Supply)
  | none => some (none, s)
  | some (.written n) => if n ≤ limit then some (some n, s) else none
  | some .given =>
      s.nextInteger.bind fun (n, s) => if n.natAbs ≤ limit then some (some n, s) else none

/-- Takes a value by its name; it is then the only one left. -/
def Supply.choose (s : Supply) : Option String → Option Supply
  | none => some s
  | some name => do
      let v ← Entries.get? (← s.named) (.str name)
      return { s with items := [v] }

/-- Writes what a directive asks for.  A negative width aligns to the left; a negative precision
counts as zero. -/
def Supply.write (s : Supply) (d : Directive) : Option (List Char × Supply) := do
  let s ← s.choose d.name
  let (width, s) ← s.measure maxWidth d.width
  let (precision, s) ← s.measure maxPrecision d.precision
  let (v, s) ← s.next
  let w ← written? d (precision.map Int.toNat) v
  let width := width.getD 0
  return (fill d (d.leftAligned || width < 0) width.natAbs w, s)

/-- Writes the parts of a template.  All values have to be used unless they are taken by name. -/
def Supply.writeAll (s : Supply) : List Piece → Option (List Char)
  | [] => if s.items.isEmpty || s.named.isSome then some [] else none
  | .char c :: rest => (s.writeAll rest).map (c :: ·)
  | .directive d :: rest => do
      let (cs, s) ← s.write d
      return cs ++ (← s.writeAll rest)

def message? (template : String) (values : List Value) : Option String :=
  if values.isEmpty then some template
  else do
    let ps ← pieces? template.toList
    return String.ofList (← (Supply.ofValues values).writeAll ps)

end Settings.Log
