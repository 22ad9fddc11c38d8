import Settings.Text.Quoted

/-!
# UTF-8

Octets are decoded as UTF-8 in its strict form: no overlong sequences, no surrogates.  Where they
cannot be, the first ill-formed sequence is reported with its place.
-/

namespace Settings.Text

inductive Utf8Fault where
  | invalidStart
  | invalidContinuation
  | unexpectedEnd
  deriving DecidableEq, Repr

def Utf8Fault.message : Utf8Fault → String
  | .invalidStart => "invalid start byte"
  | .invalidContinuation => "invalid continuation byte"
  | .unexpectedEnd => "unexpected end of data"

/-- An ill-formed sequence: its first octet, its place and its length. -/
structure Utf8Error where
  fault : Utf8Fault
  octet : UInt8
  position : Nat
  length : Nat
  deriving DecidableEq, Repr

def Utf8Error.message (e : Utf8Error) : String :=
  let octet := String.ofList (hex 2 e.octet.toNat)
  if e.length = 1 then
    s!"'utf-8' codec can't decode byte 0x{octet} in position {e.position}: {e.fault.message}"
  else
    let last := e.position + e.length - 1
    s!"'utf-8' codec can't decode bytes in position {e.position}-{last}: {e.fault.message}"

/-- What a leading octet announces: how many octets follow, the bounds of the first of them, and the
bits it contributes. -/
structure Lead where
  count : Nat
  low : Nat := 0x80
  high : Nat := 0xBF
  bits : Nat

def lead? (b : Nat) : Option Lead :=
  if b < 0x80 then some { count := 0, bits := b }
  else if b < 0xC2 then none
  else if b < 0xE0 then some { count := 1, bits := b - 0xC0 }
  else if b = 0xE0 then some { count := 2, low := 0xA0, bits := 0 }
  else if b = 0xED then some { count := 2, high := 0x9F, bits := 0xD }
  else if b < 0xF0 then some { count := 2, bits := b - 0xE0 }
  else if b = 0xF0 then some { count := 3, low := 0x90, bits := 0 }
  else if b < 0xF4 then some { count := 3, bits := b - 0xF0 }
  else if b = 0xF4 then some { count := 3, high := 0x8F, bits := 4 }
  else none

/-- Reads the octets that follow a leading one: the code point and the octets behind it, or the
fault and how many octets were in order. -/
def followers (count low high bits good : Nat) (octets : List UInt8) :
    Except (Utf8Fault × Nat) (Nat × List UInt8) :=
  match count, octets with
  | 0, rest => .ok (bits, rest)
  | _ + 1, [] => .error (.unexpectedEnd, good)
  | count + 1, b :: rest =>
      if low ≤ b.toNat ∧ b.toNat ≤ high then
        followers count 0x80 0xBF (bits * 64 + (b.toNat - 0x80)) (good + 1) rest
      else .error (.invalidContinuation, good)

/-- Decodes octets; `position` is the place of the first one.  `fuel` is not below their number. -/
def decodeFrom (position : Nat) (octets : List UInt8) : Nat → Except Utf8Error (List Char)
  | 0 => .ok []
  | fuel + 1 =>
      match octets with
      | [] => .ok []
      | b :: rest =>
          match lead? b.toNat with
          | none => .error ⟨.invalidStart, b, position, 1⟩
          | some lead =>
              match followers lead.count lead.low lead.high lead.bits 0 rest with
              | .error (fault, good) => .error ⟨fault, b, position, good + 1⟩
              | .ok (n, rest) =>
                  (decodeFrom (position + 1 + lead.count) rest fuel).map (Char.ofNat n :: ·)

def decodeUtf8 (octets : List UInt8) : Except Utf8Error (List Char) :=
  decodeFrom 0 octets octets.length

/-- A text with all line ends written as line feeds. -/
def unifyLineEnds : List Char → List Char
  | [] => []
  | '\r' :: '\n' :: rest => '\n' :: unifyLineEnds rest
  | '\r' :: rest => '\n' :: unifyLineEnds rest
  | c :: rest => c :: unifyLineEnds rest

end Settings.Text
