import Settings.Scalar.Number

/-!
# Reading JSON

A reader that also takes `NaN`, `Infinity` and `-Infinity`.  A number with a fraction or an exponent
is a float, any other an integer.  Of equal keys the last one counts, in the place of the first.
A text that cannot be read is refused with the place of the first fault.
-/

namespace Settings.Json

inductive Fault where
  | expectedValue
  | expectedComma
  | expectedColon
  | expectedName
  | extraData
  | unterminatedText
  | badEscape
  | badUnitEscape
  | controlCharacter
  | byteOrderMark
  deriving DecidableEq, Repr

def Fault.message : Fault → String
  | .expectedValue => "Expecting value"
  | .expectedComma => "Expecting ',' delimiter"
  | .expectedColon => "Expecting ':' delimiter"
  | .expectedName => "Expecting property name enclosed in double quotes"
  | .extraData => "Extra data"
  | .unterminatedText => "Unterminated string starting at"
  | .badEscape => "Invalid \\escape"
  | .badUnitEscape => "Invalid \\uXXXX escape"
  | .controlCharacter => "Invalid control character at"
  | .byteOrderMark => "Unexpected UTF-8 BOM (decode using utf-8-sig)"

inductive ReadError where
  /-- A fault, with the number of characters in front of it and its line and column. -/
  | fault (cause : Fault) (offset line column : Nat)
  /-- An integer with more digits than are converted. -/
  | tooManyDigits (count : Nat)
  deriving DecidableEq, Repr

def maxDigits : Nat := 4300

/-- The refusal of an integer for its number of digits. -/
def digitLimitMessage (count : Nat) : String :=
  s!"Exceeds the limit ({maxDigits} digits) for integer string conversion: "
    ++ s!"value has {count} digits; use sys.set_int_max_str_digits() to increase the limit"

def ReadError.message : ReadError → String
  | .fault cause offset line column =>
      s!"{cause.message}: line {line} column {column} (char {offset})"
  | .tooManyDigits count => digitLimitMessage count

/-- Why reading stopped; a fault is placed by the characters from there on. -/
inductive Stop where
  | fault (cause : Fault) (rest : List Char)
  | tooManyDigits (count : Nat)

def isJsonBlank (c : Char) : Bool :=
  c == ' ' || c == '\t' || c == '\n' || c == '\r'

def skipBlanks (cs : List Char) : List Char := cs.dropWhile isJsonBlank

def hexDigit? (c : Char) : Option Nat :=
  if '0' ≤ c ∧ c ≤ '9' then some (c.toNat - '0'.toNat)
  else if 'a' ≤ c ∧ c ≤ 'f' then some (c.toNat - 'a'.toNat + 10)
  else if 'A' ≤ c ∧ c ≤ 'F' then some (c.toNat - 'A'.toNat + 10)
  else none

/-- Reads four hexadecimal digits, behind which the text must go on. -/
def unit? : List Char → Option (Nat × List Char)
  | a :: b :: c :: d :: e :: rest => do
      let high := (← hexDigit? a) * 16 + (← hexDigit? b)
      let n := high * 256 + ((← hexDigit? c) * 16 + (← hexDigit? d))
      return (n, e :: rest)
  | _ => none

def isHighSurrogate (n : Nat) : Bool := 0xD800 ≤ n && n < 0xDC00

def isLowSurrogate (n : Nat) : Bool := 0xDC00 ≤ n && n < 0xE000

/-- The character of a unit.  A lone surrogate is no character, and texts here consist of characters
only; the replacement character stands for it. -/
def charOfUnit (n : Nat) : Char :=
  if isHighSurrogate n || isLowSurrogate n then '\uFFFD' else Char.ofNat n

/-- Reads the character behind `\u`; `place` starts with the `u`. -/
def unitChar (place rest : List Char) : Except Stop (Char × List Char) :=
  match unit? rest with
  | none => .error (.fault .badUnitEscape place)
  | some (n, rest) =>
      match isHighSurrogate n, rest with
      | true, '\\' :: 'u' :: tail =>
          if tail.length ≤ 4 then .ok (charOfUnit n, rest)
          else
            match unit? tail with
            | none => .error (.fault .badUnitEscape ('u' :: tail))
            | some (m, tail) =>
                if isLowSurrogate m then
                  .ok (Char.ofNat (0x10000 + (n - 0xD800) * 0x400 + (m - 0xDC00)), tail)
                else .ok (charOfUnit n, rest)
      | _, _ => .ok (charOfUnit n, rest)

def letterEscape? : Char → Option Char
  | '"' => some '"'
  | '\\' => some '\\'
  | '/' => some '/'
  | 'b' => some '\x08'
  | 'f' => some '\x0c'
  | 'n' => some '\n'
  | 'r' => some '\r'
  | 't' => some '\t'
  | _ => none

/-- Reads a text up to its closing quote.  `start` is the place of the opening one, and `fuel` is
not below the number of characters left. -/
def readText (start : List Char) (done : List Char) :
    Nat → List Char → Except Stop (String × List Char)
  | 0, _ => .error (.fault .unterminatedText start)
  | _ + 1, [] => .error (.fault .unterminatedText start)
  | _ + 1, '"' :: rest => .ok (String.ofList done.reverse, rest)
  | fuel + 1, '\\' :: rest =>
      match rest with
      | [] => .error (.fault .unterminatedText start)
      | 'u' :: tail => do
          let (c, tail) ← unitChar rest tail
          readText start (c :: done) fuel tail
      | c :: tail =>
          match letterEscape? c with
          | some c => readText start (c :: done) fuel tail
          | none => .error (.fault .badEscape ('\\' :: rest))
  | fuel + 1, c :: rest =>
      if c.toNat ≤ 0x1F then .error (.fault .controlCharacter (c :: rest))
      else readText start (c :: done) fuel rest

/-- Splits off the fraction of a number: a point and at least one digit. -/
def splitFraction : List Char → Option (List Char) × List Char
  | '.' :: rest =>
      let digits := rest.takeWhile Scalar.isAsciiDigit
      if digits.isEmpty then (none, '.' :: rest)
      else (some digits, rest.dropWhile Scalar.isAsciiDigit)
  | rest => (none, rest)

/-- Splits off the exponent of a number: a letter, an optional sign and at least one digit. -/
def splitExponent : List Char → Option Int × List Char
  | c :: rest =>
      if c = 'e' ∨ c = 'E' then
        let (negative, tail) := Scalar.splitSign rest
        let digits := tail.takeWhile Scalar.isAsciiDigit
        if digits.isEmpty then (none, c :: rest)
        else
          let n : Int := Scalar.asciiValue digits
          (some (if negative then -n else n), tail.dropWhile Scalar.isAsciiDigit)
      else (none, c :: rest)
  | [] => (none, [])

/-- Reads a number.  The whole part is a zero or starts with another digit. -/
def readNumber (start : List Char) : Except Stop (Value × List Char) :=
  let (negative, body) : Bool × List Char := match start with
    | '-' :: rest => (true, rest)
    | rest => (false, rest)
  let whole := match body with
    | '0' :: _ => ['0']
    | _ => body.takeWhile Scalar.isAsciiDigit
  if whole.isEmpty then .error (.fault .expectedValue start)
  else
    let (fraction, rest) := splitFraction (body.drop whole.length)
    let (exponent, rest) := splitExponent rest
    match fraction, exponent with
    | none, none =>
        if maxDigits < whole.length then .error (.tooManyDigits whole.length)
        else
          let n : Int := Scalar.asciiValue whole
          .ok (.int (if negative then -n else n), rest)
    | _, _ =>
        let numeral : Scalar.Numeral := ⟨negative, whole, fraction.getD [], exponent.getD 0⟩
        .ok (.float numeral.toFloat, rest)

def words : List (String × Value) :=
  [("null", .null), ("true", .bool true), ("false", .bool false), ("NaN", .float Double.nan),
   ("Infinity", .float (Double.infinity false)), ("-Infinity", .float (Double.infinity true))]

def word? (cs : List Char) : Option (Value × List Char) :=
  words.findSome? fun (w, v) =>
    if w.toList.isPrefixOf cs then some (v, cs.drop w.length) else none

mutual

/-- Reads a value.  `fuel` bounds the number of values and of parts still to be read. -/
def readValue : Nat → List Char → Except Stop (Value × List Char)
  | 0, cs => .error (.fault .expectedValue cs)
  | _ + 1, [] => .error (.fault .expectedValue [])
  | fuel + 1, '"' :: rest => do
      let (s, rest) ← readText ('"' :: rest) [] (fuel + 1) rest
      return (.str s, rest)
  | fuel + 1, '[' :: rest =>
      match skipBlanks rest with
      | ']' :: tail => .ok (.list [], tail)
      | rest => readItems fuel [] rest
  | fuel + 1, '\x7b' :: rest =>
      match skipBlanks rest with
      | '\x7d' :: tail => .ok (.map [], tail)
      | rest => readMembers fuel [] rest
  | _ + 1, cs =>
      match word? cs with
      | some found => .ok found
      | none => readNumber cs

/-- Reads the items of a list up to its closing bracket; `done` are the earlier ones, latest
first. -/
def readItems : Nat → List Value → List Char → Except Stop (Value × List Char)
  | 0, _, cs => .error (.fault .expectedValue cs)
  | fuel + 1, done, cs => do
      let (v, rest) ← readValue fuel cs
      match skipBlanks rest with
      | ']' :: tail => .ok (.list (v :: done).reverse, tail)
      | ',' :: tail => readItems fuel (v :: done) (skipBlanks tail)
      | rest => .error (.fault .expectedComma rest)

/-- Reads the members of an object up to its closing bracket. -/
def readMembers : Nat → Entries → List Char → Except Stop (Value × List Char)
  | 0, _, cs => .error (.fault .expectedName cs)
  | fuel + 1, done, cs => do
      match cs with
      | '"' :: rest =>
          let (key, rest) ← readText cs [] (fuel + 1) rest
          match skipBlanks rest with
          | ':' :: rest =>
              let (v, rest) ← readValue fuel (skipBlanks rest)
              let done := Entries.put done (.str key) v
              match skipBlanks rest with
              | '\x7d' :: tail => .ok (.map done, tail)
              | ',' :: tail => readMembers fuel done (skipBlanks tail)
              | rest => .error (.fault .expectedComma rest)
          | rest => .error (.fault .expectedColon rest)
      | _ => .error (.fault .expectedName cs)

end

def readAll (cs : List Char) : Except Stop Value :=
  if cs.head? = some '\uFEFF' then .error (.fault .byteOrderMark cs)
  else do
    let (v, rest) ← readValue (2 * cs.length + 2) (skipBlanks cs)
    match skipBlanks rest with
    | [] => return v
    | rest => throw (.fault .extraData rest)

def Stop.toError (cs : List Char) : Stop → ReadError
  | .tooManyDigits count => .tooManyDigits count
  | .fault cause rest =>
      let before := cs.take (cs.length - rest.length)
      let line := before.count '\n' + 1
      let column := (before.reverse.takeWhile (· != '\n')).length + 1
      .fault cause before.length line column

def read (text : String) : Except ReadError Value :=
  (readAll text.toList).mapError (Stop.toError text.toList)

end Settings.Json
