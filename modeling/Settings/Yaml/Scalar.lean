import Settings.Calendar
import Settings.Json.Reader
import Settings.Text.Case
import Settings.Text.Digit
import Settings.Value.Text

/-!
# What the text of a scalar stands for

A plain scalar is null, a truth value, a number, a day or a moment if its text has the form of one.
The forms are those of YAML 1.1: `yes` and `off` are truth values, a leading zero means base eight,
colons separate places in base sixty, and a float has a point.  With a tag, the text has to be
readable as a value of that type, whatever its form.
-/

namespace Settings.Yaml

/-- Why a document or one of its scalars has no value. -/
inductive ReadError where
  /-- It is not written as it should be, or a tag does not fit its node. -/
  | malformed
  | emptyNumber
  | notInteger (base : Nat) (text : String)
  | tooManyDigits (count : Nat)
  | notFloat (text : String)
  | notTruthValue (word : String)
  | notMoment
  | yearOutOfRange (year : Nat)
  | monthOutOfRange
  | dayOutOfRange
  | hourOutOfRange
  | minuteOutOfRange
  | secondOutOfRange
  | offsetOutOfRange (minutes : Int)
  /-- An escape for a number that no character has. -/
  | noCharacter (number : Nat)
  deriving DecidableEq, Repr

def ReadError.message : ReadError → String
  | .malformed => ""
  | .emptyNumber => "string index out of range"
  | .notInteger base text =>
      let quoted := String.ofList ((Text.quote text).toList.take 200)
      s!"invalid literal for int() with base {base}: {quoted}"
  | .tooManyDigits count => Json.digitLimitMessage count
  | .notFloat text => s!"could not convert string to float: {Text.quote text}"
  | .notTruthValue word => word
  | .notMoment => "'NoneType' object has no attribute 'groupdict'"
  | .yearOutOfRange year => s!"year {year} is out of range"
  | .monthOutOfRange => "month must be in 1..12"
  | .dayOutOfRange => "day is out of range for month"
  | .hourOutOfRange => "hour must be in 0..23"
  | .minuteOutOfRange => "minute must be in 0..59"
  | .secondOutOfRange => "second must be in 0..59"
  | .offsetOutOfRange minutes =>
      let offset := ((Duration.ofMicros? (minutes * 60000000)).getD .zero).shown
      "offset must be a timedelta strictly between -timedelta(hours=24) and "
        ++ s!"timedelta(hours=24), not {offset}."
  | .noCharacter number =>
      if 0x80000000 ≤ number then "Python int too large to convert to C int"
      else "chr() arg not in range(0x110000)"

/-! ### Forms -/

def isLooseDigit (c : Char) : Bool := c.isDigit || c == '_'

/-- Without a sign, if there is one. -/
def unsigned : List Char → List Char
  | '+' :: rest => rest
  | '-' :: rest => rest
  | cs => cs

/-- A digit, then digits and underscores. -/
def isDigitGroup : List Char → Bool
  | c :: rest => c.isDigit && rest.all isLooseDigit
  | [] => false

/-- A place in base sixty: one digit, or two of which the first is below six. -/
def isSixtieth : List Char → Bool
  | [c] => c.isDigit
  | [c, d] => '0' ≤ c && c ≤ '5' && d.isDigit
  | _ => false

/-- The parts of a text between occurrences of a character. -/
def splitAt (separator : Char) (cs : List Char) : List (List Char) :=
  cs.splitOn separator

/-- A signed exponent with its letter, or nothing. -/
def isExponent : List Char → Bool
  | [] => true
  | e :: s :: digits =>
      (e == 'e' || e == 'E') && (s == '-' || s == '+') && !digits.isEmpty && digits.all Char.isDigit
  | _ => false

/-- What may stand behind the point of a float. -/
def isFloatTail (cs : List Char) : Bool := isExponent (cs.dropWhile isLooseDigit)

def isFloatForm (cs : List Char) : Bool :=
  let body := unsigned cs
  let whole := body.takeWhile (· != '.')
  match body.dropWhile (· != '.') with
  | '.' :: tail =>
      let word := String.ofList tail
      if whole.isEmpty then
        (["inf", "Inf", "INF"].contains word)
          || (body.length == cs.length && ["nan", "NaN", "NAN"].contains word)
          || (body.length == cs.length && tail.head?.any Char.isDigit && isFloatTail tail)
      else
        match splitAt ':' whole with
        | [group] => isDigitGroup group && isFloatTail tail
        | group :: places => isDigitGroup group && places.all isSixtieth && tail.all isLooseDigit
        | [] => false
  | _ => false

def isIntegerForm (cs : List Char) : Bool :=
  match unsigned cs with
  | ['0'] => true
  | '0' :: 'b' :: digits => !digits.isEmpty && digits.all fun c => c == '0' || c == '1' || c == '_'
  | '0' :: 'x' :: digits =>
      !digits.isEmpty && digits.all fun c => (Json.hexDigit? c).isSome || c == '_'
  | '0' :: digits => digits.all fun c => ('0' ≤ c && c ≤ '7') || c == '_'
  | body =>
      match splitAt ':' body with
      | group :: places => isDigitGroup group && places.all isSixtieth
      | [] => false

/-! ### Days and moments -/

/-- The parts of a day and, if there is one, of a time. -/
structure Stamp where
  year : Nat
  month : Nat
  day : Nat
  time : Option (Nat × Nat × Nat) := none
  fraction : List Char := []
  offset : Option Int := none

def number (cs : List Char) : Nat := Scalar.asciiValue cs

/-- Splits off between `least` and `most` digits, as many as there are. -/
def digits? (least most : Nat) (cs : List Char) : Option (Nat × List Char) :=
  let found := (cs.take most).takeWhile Char.isDigit
  if found.length < least then none else some (number found, cs.drop found.length)

def char? (c : Char) : List Char → Option (List Char)
  | d :: rest => if c == d then some rest else none
  | [] => none

/-- Reads an offset from universal time at the end of a text. -/
def zone? (cs : List Char) : Option (Option Int) :=
  match cs.dropWhile fun c => c == ' ' || c == '\t' with
  | [] => if cs.isEmpty then some none else none
  | ['Z'] => some (some 0)
  | sign :: rest =>
      if sign != '+' && sign != '-' then none
      else do
        let (hours, rest) ← digits? 1 2 rest
        let minutes ← match rest with
          | [] => some 0
          | _ => do
              let (minutes, rest) ← digits? 2 2 (← char? ':' rest)
              if rest.isEmpty then some minutes else none
        let n : Int := hours * 60 + minutes
        return some (if sign == '-' then -n else n)

/-- Reads the time behind a day. -/
def time? (stamp : Stamp) (cs : List Char) : Option Stamp := do
  let (hour, rest) ← digits? 1 2 cs
  let (minute, rest) ← digits? 2 2 (← char? ':' rest)
  let (second, rest) ← digits? 2 2 (← char? ':' rest)
  let (fraction, rest) : List Char × List Char := match rest with
    | '.' :: rest => (rest.takeWhile Char.isDigit, rest.dropWhile Char.isDigit)
    | rest => ([], rest)
  let offset ← zone? rest
  return { stamp with time := some (hour, minute, second), fraction, offset }

def stamp? (cs : List Char) : Option Stamp := do
  let (year, rest) ← digits? 4 4 cs
  let (month, rest) ← digits? 1 2 (← char? '-' rest)
  let (day, rest) ← digits? 1 2 (← char? '-' rest)
  let stamp : Stamp := { year, month, day }
  match rest with
  | [] => return stamp
  | c :: rest =>
      if c == 'T' || c == 't' then time? stamp rest
      else if c == ' ' || c == '\t' then
        time? stamp (rest.dropWhile fun c => c == ' ' || c == '\t')
      else none

/-- Without a line break at the end. -/
def withoutFinalBreak (cs : List Char) : List Char :=
  if cs.getLast? = some '\n' then cs.dropLast else cs

/-- The form of a day or a moment; a day alone has two digits for its month and two for its day. -/
def isStampForm (cs : List Char) : Bool :=
  match stamp? cs with
  | some s => s.time.isSome || cs.length == 10
  | none => false

def Stamp.toDate (s : Stamp) : Except ReadError Date :=
  if s.year = 0 then .error (.yearOutOfRange s.year)
  else if s.month = 0 ∨ 12 < s.month then .error .monthOutOfRange
  else if s.day = 0 ∨ daysInMonth s.year s.month < s.day then .error .dayOutOfRange
  else .ok ⟨s.year, s.month, s.day⟩

/-- The day or the moment of a stamp.  Of the fraction of a second six digits count. -/
def Stamp.toValue (s : Stamp) : Except ReadError Value :=
  match s.time with
  | none => s.toDate.map .date
  | some (hour, minute, second) => do
      match s.offset with
      | some o => if 1440 ≤ o.natAbs then throw (.offsetOutOfRange o)
      | none => pure ()
      let date ← s.toDate
      if 23 < hour then throw .hourOutOfRange
      if 59 < minute then throw .minuteOutOfRange
      if 59 < second then throw .secondOutOfRange
      let fraction := s.fraction.take 6
      let microsecond := number (fraction ++ List.replicate (6 - fraction.length) '0')
      return .moment { date, hour, minute, second, microsecond, offset := s.offset }

/-! ### Types -/

def coreTag (name : String) : String := "tag:yaml.org,2002:" ++ name

/-- The words for truth values, in lower case. -/
def truthWords : List (String × Bool) :=
  [("yes", true), ("no", false), ("true", true), ("false", false), ("on", true), ("off", false)]

/-- A word for a truth value in lower case, in upper case or with a capital letter. -/
def isTruthForm (s : String) : Bool :=
  truthWords.any fun (w, _) => s == w || s == w.toUpper || s == w.capitalize

/-- The tag that the text of a plain scalar asks for. -/
def impliedTag (s : String) : String :=
  let cs := s.toList
  if isTruthForm s then coreTag "bool"
  else if isFloatForm cs then coreTag "float"
  else if isIntegerForm cs then coreTag "int"
  else if s == "<<" then coreTag "merge"
  else if ["", "~", "null", "Null", "NULL"].contains s then coreTag "null"
  else if isStampForm cs then coreTag "timestamp"
  else if s == "=" then coreTag "value"
  else coreTag "str"

/-! ### Values -/

/-- The value of a digit in bases up to sixteen. -/
def baseDigit? (base : Nat) (c : Char) : Option Nat :=
  match (Text.digitValue? c).orElse fun _ => Json.hexDigit? c with
  | some d => if d < base then some d else none
  | none => none

/-- Whether a text starts with the mark of a base. -/
def hasBaseMark (base : Nat) : List Char → Bool
  | '0' :: c :: _ :: _ =>
      (base == 2 && (c == 'b' || c == 'B')) || (base == 8 && (c == 'o' || c == 'O'))
        || (base == 16 && (c == 'x' || c == 'X'))
  | _ => false

/-- Reads an integer in a base, with blanks and a sign. -/
def integerIn (base : Nat) (cs : List Char) : Except ReadError Int :=
  let (negative, body) := Scalar.splitSign (Text.trimWhere Text.isBlank cs)
  let digits := if hasBaseMark base body then body.drop 2 else body
  match digits.mapM (baseDigit? base) with
  | some (d :: ds) =>
      if base == 10 && Json.maxDigits < digits.length then .error (.tooManyDigits digits.length)
      else
        let n : Nat := (d :: ds).foldl (fun n d => base * n + d) 0
        .ok (if negative then -(n : Int) else n)
  | _ => .error (.notInteger base (String.ofList cs))

/-- The value of places in base sixty, most significant first. -/
def sixtieths (places : List Int) : Int := places.foldl (fun n p => 60 * n + p) 0

/-- Reads the text of an integer: in base two, sixteen, eight, sixty or ten, as its start tells. -/
def integerValue (s : String) : Except ReadError Int :=
  let cs := s.toList.filter (· != '_')
  if cs.isEmpty then .error .emptyNumber
  else
    let sign : Int := if cs.head? == some '-' then -1 else 1
    let body := unsigned cs
    match body with
    | [] => .error .emptyNumber
    | ['0'] => .ok 0
    | '0' :: 'b' :: digits => (integerIn 2 digits).map (sign * ·)
    | '0' :: 'x' :: digits => (integerIn 16 digits).map (sign * ·)
    | '0' :: _ => (integerIn 8 body).map (sign * ·)
    | _ =>
        if body.contains ':' then
          ((splitAt ':' body).mapM (integerIn 10)).map fun places => sign * sixtieths places
        else (integerIn 10 body).map (sign * ·)

/-- Reads a float, with blanks and a sign, in the digits of any script. -/
def floatIn (cs : List Char) : Except ReadError Float :=
  let ascii (c : Char) : Char := match Text.digitValue? c with
    | some d => Char.ofNat ('0'.toNat + d)
    | none => c
  match Scalar.decimalFloat? ((Text.trimWhere Text.isBlank cs).map ascii) with
  | some x => .ok x
  | none => .error (.notFloat (String.ofList cs))

/-- The sum of places in base sixty, least significant first, rounded at every step. -/
def sixtiethSum (sum : Float) (weight : Int) : List Float → Float
  | [] => sum
  | x :: rest =>
      let w := (Double.ofInt? weight).getD (Double.infinity false)
      sixtiethSum (sum + x * w) (60 * weight) rest

def floatValue (s : String) : Except ReadError Float :=
  let cs := Text.lowerAfter [] (s.toList.filter (· != '_'))
  if cs.isEmpty then .error .emptyNumber
  else
    let negate (x : Float) : Float := if cs.head? == some '-' then -x else x
    let body := unsigned cs
    let word := String.ofList body
    if word == ".inf" then .ok (negate (Double.infinity false))
    else if word == ".nan" then .ok Double.nan
    else if body.contains ':' then
      ((splitAt ':' body).mapM floatIn).map fun xs =>
        negate (sixtiethSum (Float.ofBits 0) 1 xs.reverse)
    else (floatIn body).map negate

def base64Digit? (c : Char) : Option Nat :=
  if 'A' ≤ c ∧ c ≤ 'Z' then some (c.toNat - 'A'.toNat)
  else if 'a' ≤ c ∧ c ≤ 'z' then some (c.toNat - 'a'.toNat + 26)
  else if '0' ≤ c ∧ c ≤ '9' then some (c.toNat - '0'.toNat + 52)
  else if c = '+' then some 62
  else if c = '/' then some 63
  else none

/-- Decodes base 64.  `group` holds the digits of the current group of four, `pads` counts the
padding right behind them; other characters are passed over, and nothing counts behind a full
padding. -/
def base64From (group : List Nat) (pads : Nat) : List Char → Option (List UInt8)
  | [] => if group.isEmpty then some [] else none
  | c :: rest =>
      if c = '=' then
        if 2 ≤ group.length && 4 ≤ group.length + pads + 1 then some []
        else base64From group (if 2 ≤ group.length then pads + 1 else pads) rest
      else
        match base64Digit? c with
        | none => base64From group pads rest
        | some d =>
            let octet (n : Nat) (more : Option (List UInt8)) :=
              more.map (UInt8.ofNat (n % 256) :: ·)
            match group with
            | [] => base64From [d] 0 rest
            | [a] => octet (a * 4 + d / 16) (base64From [a, d] 0 rest)
            | [a, b] => octet (b * 16 + d / 4) (base64From [a, b, d] 0 rest)
            | _ => octet ((group.getLastD 0) * 64 + d) (base64From [] 0 rest)

def octetsValue (s : String) : Except ReadError Value :=
  if s.toList.all fun c => c.toNat < 128 then
    match base64From [] 0 s.toList with
    | some octets => .ok (.bytes octets)
    | none => .error .malformed
  else .error .malformed

/-- The value of a text under a tag with a full name. -/
def scalarValue (tag : String) (s : String) : Except ReadError Value :=
  if tag == coreTag "str" then .ok (.str s)
  else if tag == coreTag "null" then .ok .null
  else if tag == coreTag "bool" then
    let word := Text.lower s
    match truthWords.find? (·.1 == word) with
    | some (_, b) => .ok (.bool b)
    | none => .error (.notTruthValue word)
  else if tag == coreTag "int" then (integerValue s).map .int
  else if tag == coreTag "float" then (floatValue s).map .float
  else if tag == coreTag "binary" then octetsValue s
  else if tag == coreTag "timestamp" then
    match stamp? (withoutFinalBreak s.toList) with
    | some stamp => stamp.toValue
    | none => .error .notMoment
  else .error .malformed

end Settings.Yaml
