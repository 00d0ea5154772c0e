import UrlSigning.Text.Hex

/-!
# UTF-8

Characters as bytes and back. The reader takes one character at a time and, where the bytes spell
none, says how many of them belong to the fault; `decode` stops there with the position, and
`decodeLossy` puts one replacement character in their place.
-/

namespace UrlSigning.Text.Utf8

/-- The bytes of one character. -/
def encodeChar (c : Char) : Bytes :=
  let n := c.toNat
  if n < 0x80 then [UInt8.ofNat n]
  else if n < 0x800 then [UInt8.ofNat (0xC0 + n / 0x40), UInt8.ofNat (0x80 + n % 0x40)]
  else if n < 0x10000 then
    [UInt8.ofNat (0xE0 + n / 0x1000), UInt8.ofNat (0x80 + n / 0x40 % 0x40),
      UInt8.ofNat (0x80 + n % 0x40)]
  else
    [UInt8.ofNat (0xF0 + n / 0x40000), UInt8.ofNat (0x80 + n / 0x1000 % 0x40),
      UInt8.ofNat (0x80 + n / 0x40 % 0x40), UInt8.ofNat (0x80 + n % 0x40)]

/-- The bytes of a text. -/
def encode (cs : List Char) : Bytes :=
  cs.flatMap encodeChar

/-- The bytes of a string. -/
def ofString (s : String) : Bytes :=
  encode s.toList

/-- Why bytes spell no character. -/
inductive Fault where
  | badStart
  | badContinuation
  | endOfData
deriving DecidableEq, Repr

/-- The reading of one character: the character or the fault, and the bytes after the first that
belong to it. -/
structure Reading where
  result : Except Fault Char
  extra : Nat

/-- Whether a byte continues a character, when it lies between the two bounds. -/
def continues (low high : Nat) (b : UInt8) : Bool :=
  low ≤ b.toNat && b.toNat ≤ high

/-- Reads `count` continuation bytes, of which the first lies between the bounds; `done` of them
have been read, and `value` is the number that they spell. -/
def readContinuation (value done : Nat) (low high : Nat) : Nat → Bytes → Reading
  | 0, _ => ⟨.ok (Char.ofNat value), done⟩
  | _ + 1, [] => ⟨.error .endOfData, done⟩
  | count + 1, b :: rest =>
    if continues low high b then
      readContinuation (value * 0x40 + b.toNat % 0x40) (done + 1) 0x80 0xBF count rest
    else ⟨.error .badContinuation, done⟩

/-- Reads one character, whose first byte is `b`. The bounds on the second byte shut out longer
spellings than a character needs, the surrogates, and what lies beyond the last code point. -/
def readChar (b : UInt8) (rest : Bytes) : Reading :=
  let n := b.toNat
  if n < 0x80 then ⟨.ok (Char.ofNat n), 0⟩
  else if n < 0xC2 then ⟨.error .badStart, 0⟩
  else if n < 0xE0 then readContinuation (n % 0x20) 0 0x80 0xBF 1 rest
  else if n < 0xF0 then
    readContinuation (n % 0x10) 0 (if n = 0xE0 then 0xA0 else 0x80)
      (if n = 0xED then 0x9F else 0xBF) 2 rest
  else if n < 0xF5 then
    readContinuation (n % 0x08) 0 (if n = 0xF0 then 0x90 else 0x80)
      (if n = 0xF4 then 0x8F else 0xBF) 3 rest
  else ⟨.error .badStart, 0⟩

/-- Bytes that are no text: where the fault begins, how many bytes it covers, and its first byte. -/
structure DecodeError where
  fault : Fault
  position : Nat
  width : Nat
  first : UInt8
deriving DecidableEq, Repr

/-- Reads the bytes from `position` on. -/
def decodeFrom (position : Nat) : Bytes → Except DecodeError (List Char)
  | [] => .ok []
  | b :: rest =>
    let reading := readChar b rest
    match reading.result with
    | .ok c => do
      let cs ← decodeFrom (position + reading.extra + 1) (rest.drop reading.extra)
      return c :: cs
    | .error fault => .error ⟨fault, position, reading.extra + 1, b⟩
termination_by bs => bs.length
decreasing_by simp only [List.length_drop, List.length_cons]; omega

/-- Reads a text; the first fault is reported. -/
def decode (bs : Bytes) : Except DecodeError (List Char) :=
  decodeFrom 0 bs

/-- The character that stands for bytes that spell none. -/
def replacement : Char := '\uFFFD'

/-- Reads a text, with one replacement character for each fault. -/
def decodeLossy : Bytes → List Char
  | [] => []
  | b :: rest =>
    let reading := readChar b rest
    (match reading.result with
    | .ok c => c
    | .error _ => replacement) :: decodeLossy (rest.drop reading.extra)
termination_by bs => bs.length
decreasing_by simp only [List.length_drop, List.length_cons]; omega

def Fault.message : Fault → String
  | .badStart => "invalid start byte"
  | .badContinuation => "invalid continuation byte"
  | .endOfData => "unexpected end of data"

/-- A single byte is shown with its value, several with the span of their positions. -/
def DecodeError.message (e : DecodeError) : String :=
  let where_ :=
    if e.width = 1 then
      s!"byte 0x{Hex.text [e.first]} in position {e.position}"
    else s!"bytes in position {e.position}-{e.position + e.width - 1}"
  s!"'utf-8' codec can't decode {where_}: {e.fault.message}"

end UrlSigning.Text.Utf8
