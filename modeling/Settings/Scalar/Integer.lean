import Settings.Issue
import Settings.Text.Blank
import Settings.Text.Utf8

/-!
# Values as integers

An integer field also takes truth values, floats without a fraction, and texts, which may be given
as their UTF-8 octets.  A text is a sign and ASCII digits, single underscores being allowed between
digits; a point with zeros behind it changes nothing.  White space around it is ignored.
-/

namespace Settings.Scalar

/-- The text that octets spell; `p` is the problem if they are not UTF-8. -/
def textOfOctets (p : Problem) (octets : List UInt8) : Except Problem String :=
  match Text.decodeUtf8 octets with
  | .ok cs => .ok (String.ofList cs)
  | .error _ => .error p

def asciiDigit? (c : Char) : Option Nat :=
  if '0' ≤ c ∧ c ≤ '9' then some (c.toNat - '0'.toNat) else none

def isAsciiDigit (c : Char) : Bool := (asciiDigit? c).isSome

def asciiValue (cs : List Char) : Nat :=
  cs.foldl (fun n c => 10 * n + (asciiDigit? c).getD 0) 0

/-- Splits off a sign; `true` is a minus. -/
def splitSign : List Char → Bool × List Char
  | '+' :: rest => (false, rest)
  | '-' :: rest => (true, rest)
  | cs => (false, cs)

/-- Drops the zeros in front of a number, and underscores among them.  If no digit is left then, the
last of these characters stays. -/
def dropZeros? (cs : List Char) : Option (List Char) :=
  let isSpare (c : Char) : Bool := c == '0' || c == '_'
  match cs with
  | '0' :: rest =>
      let last := (rest.takeWhile isSpare).getLastD '0'
      match rest.dropWhile isSpare with
      | [] => some [last]
      | '.' :: tail => some (last :: '.' :: tail)
      | c :: tail => if isAsciiDigit c then some (c :: tail) else none
  | c :: rest => if isAsciiDigit c then some (c :: rest) else none
  | [] => none

/-- Drops a point that only zeros stand behind, at least one. -/
def dropZeroFraction (cs : List Char) : List Char :=
  let zeros := (cs.dropWhile (· != '.')).drop 1
  if !zeros.isEmpty && zeros.all (· == '0') then cs.takeWhile (· != '.') else cs

/-- Whether no underscore stands at the end or beside another one. -/
def hasSingleUnderscores : List Char → Bool
  | [] => true
  | ['_'] => false
  | '_' :: '_' :: _ => false
  | _ :: rest => hasSingleUnderscores rest

/-- A text without its underscores, if it has any and they stand apart inside it. -/
def withoutUnderscores? (cs : List Char) : Option (List Char) :=
  if cs.contains '_' && cs.head? != some '_' && hasSingleUnderscores cs then
    some (cs.filter (· != '_'))
  else none

/-- The number of characters that an integer may have, a minus included. -/
def maxIntegerLength : Nat := 4300

/-- Reads digits.  Too many of them are refused as such, whatever stands behind. -/
def integerOfDigits (negative : Bool) (cs : List Char) : Except Problem Int :=
  let digits := cs.takeWhile isAsciiDigit
  if maxIntegerLength < digits.length + (if negative then 1 else 0) then .error .integerSize
  else if digits.isEmpty || digits.length != cs.length then .error .integerSyntax
  else .ok (if negative then -(asciiValue digits : Int) else asciiValue digits)

def integerOfText (s : String) : Except Problem Int :=
  let (negative, body) := splitSign (Text.trimWhere Text.isWhiteSpace s.toList)
  match dropZeros? body with
  | none => .error .integerSyntax
  | some cs =>
      let cs := dropZeroFraction cs
      integerOfDigits negative ((withoutUnderscores? cs).getD cs)

/-- A float as an integer: it has to be whole and to fit into 64 bits with its sign. -/
def integerOfFloat (x : Float) : Except Problem Int :=
  if !Double.isFinite x then .error .notFinite
  else
    match Double.toInt? x with
    | none => .error .fractional
    | some n => if n.natAbs < 0x8000000000000000 then .ok n else .error .integerSize

def toInteger : Value → Except Problem Int
  | .int n => .ok n
  | .bool b => .ok (if b then 1 else 0)
  | .float x => integerOfFloat x
  | .str s => integerOfText s
  | .bytes octets => (textOfOctets .integerSyntax octets).bind integerOfText
  | _ => .error .notInteger

@[simp] theorem toInteger_int (n : Int) : toInteger (.int n) = .ok n := rfl

end Settings.Scalar
