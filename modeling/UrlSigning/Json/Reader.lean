import UrlSigning.Json.Value
import UrlSigning.Text.Digit

/-!
# Reading JSON

A reader of JSON documents that says where a document goes wrong: the fault, and the line, column
and character at which it was seen. Each step of the reader takes a text and gives back a value with
what follows it, so a place is known by how much of the text is left. Objects keep the first place
and the last value of a field that is repeated, and the numbers may be infinite or no number.
-/

namespace UrlSigning.Json

inductive Fault where
  | value
  | extraData
  | propertyName
  | colon
  | comma
  | controlCharacter
  | unterminated
  | escape
  | unicodeEscape
  | byteOrderMark
  /-- A whole number has more digits than are read. -/
  | digits (count : Nat)
  /-- Arrays and objects are nested too deeply; the innermost of them is an object or an array. -/
  | nesting (inObject : Bool)
deriving DecidableEq, Repr

/-- A fault at the place from which on so many characters are left. -/
structure Misplaced where
  fault : Fault
  left : Nat

/-- What a step of the reader gives: a value and the rest of the text. -/
abbrev Parsed (α : Type) := α × List Char

/-- The reader stops with a fault at the head of `cs`. -/
def stopAt {α : Type} (fault : Fault) (cs : List Char) : Except Misplaced α :=
  .error ⟨fault, cs.length⟩

/-- The blanks between the parts of a document. -/
def isSpace (c : Char) : Bool :=
  c == ' ' || c == '\t' || c == '\n' || c == '\r'

def skipSpace (cs : List Char) : List Char :=
  cs.dropWhile isSpace

/-- The number that four hexadecimal digits spell. -/
def hexCode? : List Char → Option Nat
  | [a, b, c, d] => do
    let p ← Text.Hex.value? a
    let q ← Text.Hex.value? b
    let r ← Text.Hex.value? c
    let s ← Text.Hex.value? d
    return ((p * 16 + q) * 16 + r) * 16 + s
  | _ => none

/-- The character that a letter after a backslash stands for. -/
def escaped? : Char → Option Char
  | '"' => some '"'
  | '\\' => some '\\'
  | '/' => some '/'
  | 'b' => some '\x08'
  | 'f' => some '\x0c'
  | 'n' => some '\n'
  | 'r' => some '\r'
  | 't' => some '\t'
  | _ => none

/-- Whether the code is the first half of a pair that spells one character. -/
def isHighHalf (n : Nat) : Bool := 0xD800 ≤ n && n < 0xDC00

/-- Whether the code is the second half of such a pair. -/
def isLowHalf (n : Nat) : Bool := 0xDC00 ≤ n && n < 0xE000

/-- The character of a code; half of a pair that stands alone is read as the replacement
character. -/
def charOfCode (n : Nat) : Char :=
  if isHighHalf n || isLowHalf n then '\uFFFD' else Char.ofNat n

/-- The character of a pair of codes. -/
def charOfPair (high low : Nat) : Char :=
  Char.ofNat (0x10000 + (high - 0xD800) * 0x400 + (low - 0xDC00))

/-- Reads the code after a backslash and the letter u, of which `cs` is the rest: the character and
how many characters were taken. A first half takes the second with it if that follows. -/
def readCode (cs : List Char) : Except Misplaced (Char × Nat) :=
  let fault : Except Misplaced (Char × Nat) := .error ⟨.unicodeEscape, cs.length + 1⟩
  if cs.length < 5 then fault
  else
    match hexCode? (cs.take 4) with
    | none => fault
    | some high =>
      let rest := cs.drop 4
      if isHighHalf high && 7 ≤ rest.length && rest.take 2 == ['\\', 'u'] then
        match hexCode? ((rest.drop 2).take 4) with
        | none => .error ⟨.unicodeEscape, rest.length - 1⟩
        | some low =>
          if isLowHalf low then .ok (charOfPair high low, 10) else .ok (charOfCode high, 4)
      else .ok (charOfCode high, 4)

/-- Reads a string up to its closing quote; `opening` is the length of the text from the opening
quote on. -/
def readString (opening : Nat) : List Char → Except Misplaced (Parsed (List Char))
  | [] => .error ⟨.unterminated, opening⟩
  | '"' :: rest => .ok ([], rest)
  | ['\\'] => .error ⟨.unterminated, opening⟩
  | '\\' :: 'u' :: rest => do
    let (c, taken) ← readCode rest
    let (cs, rest) ← readString opening (rest.drop taken)
    return (c :: cs, rest)
  | '\\' :: e :: rest =>
    match escaped? e with
    | none => stopAt .escape ('\\' :: e :: rest)
    | some c => do
      let (cs, rest) ← readString opening rest
      return (c :: cs, rest)
  | c :: rest =>
    if c.toNat < 0x20 then stopAt .controlCharacter (c :: rest)
    else do
      let (cs, rest) ← readString opening rest
      return (c :: cs, rest)
termination_by cs => cs.length
decreasing_by all_goals simp <;> omega

/-- The number that ASCII digits spell. -/
def natOfDigits (ds : List Char) : Nat :=
  ds.foldl (fun n c => 10 * n + (c.toNat - '0'.toNat)) 0

/-- The whole part of a number: one zero, or digits that do not begin with one. -/
def wholeDigits : List Char → List Char × List Char
  | '0' :: rest => (['0'], rest)
  | cs => (cs.takeWhile Char.isDigit, cs.dropWhile Char.isDigit)

/-- The digits after a point, if there are any. -/
def fractionDigits : List Char → List Char × List Char
  | '.' :: rest =>
    if (rest.takeWhile Char.isDigit).isEmpty then ([], '.' :: rest)
    else (rest.takeWhile Char.isDigit, rest.dropWhile Char.isDigit)
  | cs => ([], cs)

/-- The exponent, if one follows: a letter e, a sign if there is one, and digits. -/
def exponent? : List Char → Option (Int × List Char)
  | [] => none
  | e :: rest =>
    if e != 'e' && e != 'E' then none
    else
      let (negative, digits) := match rest with
        | '-' :: ds => (true, ds)
        | '+' :: ds => (false, ds)
        | ds => (false, ds)
      let ds := digits.takeWhile Char.isDigit
      if ds.isEmpty then none
      else
        let n : Int := natOfDigits ds
        some (if negative then -n else n, digits.dropWhile Char.isDigit)

/-- Reads a number. Without a point and an exponent it is a whole one. -/
def readNumber (cs : List Char) : Except Misplaced (Parsed Json) :=
  let (negative, unsigned) := match cs with
    | '-' :: rest => (true, rest)
    | _ => (false, cs)
  let (whole, rest) := wholeDigits unsigned
  if whole.isEmpty then stopAt .value cs
  else
    let (fraction, rest) := fractionDigits rest
    match exponent? rest with
    | some (e, rest) =>
      let digits := natOfDigits (whole ++ fraction)
      .ok (.real (.ofDecimal negative digits (e - fraction.length)), rest)
    | none =>
      if !fraction.isEmpty then
        let digits := natOfDigits (whole ++ fraction)
        .ok (.real (.ofDecimal negative digits (-fraction.length)), rest)
      else if Text.maxDigits < whole.length then stopAt (.digits whole.length) cs
      else
        let n : Int := natOfDigits whole
        .ok (.int (if negative then -n else n), rest)

/-- The words that stand for values. -/
def names : List (String × Json) :=
  [("null", .null), ("true", .bool true), ("false", .bool false), ("NaN", .real .nan),
    ("Infinity", .real (.infinite false)), ("-Infinity", .real (.infinite true))]

/-- The value of the word at the head of the text, with the rest. -/
def readName? (cs : List Char) : Option (Json × List Char) :=
  names.findSome? fun (name, v) =>
    if name.toList.isPrefixOf cs then some (v, cs.drop name.length) else none

/-- Reads a value that holds no others: a string, a word or a number. -/
def readScalar : List Char → Except Misplaced (Parsed Json)
  | '"' :: rest => do
    let (s, rest) ← readString (rest.length + 1) rest
    return (.text (String.ofList s), rest)
  | cs =>
    match readName? cs with
    | some found => .ok found
    | none => readNumber cs

/-- Reads the items of an array from the first one on, up to the closing bracket. There are fewer
of them than `fuel`, the length of the text. -/
def readItems (read : List Char → Except Misplaced (Parsed Json)) :
    Nat → List Char → Except Misplaced (Parsed (List Json))
  | 0, cs => stopAt .value cs
  | fuel + 1, cs => do
    let (v, rest) ← read cs
    match skipSpace rest with
    | ']' :: rest => return ([v], rest)
    | ',' :: rest =>
      let (vs, rest) ← readItems read fuel (skipSpace rest)
      return (v :: vs, rest)
    | rest => stopAt .comma rest

/-- Reads the fields of an object from the first one on, up to the closing brace. -/
def readFields (read : List Char → Except Misplaced (Parsed Json)) :
    Nat → List Char → Except Misplaced (Parsed (List (String × Json)))
  | 0, cs => stopAt .propertyName cs
  | fuel + 1, cs =>
    match cs with
    | '"' :: rest => do
      let (name, rest) ← readString (rest.length + 1) rest
      match skipSpace rest with
      | ':' :: rest =>
        let (v, rest) ← read (skipSpace rest)
        match skipSpace rest with
        | '}' :: rest => return ([(String.ofList name, v)], rest)
        | ',' :: rest =>
          let (vs, rest) ← readFields read fuel (skipSpace rest)
          return ((String.ofList name, v) :: vs, rest)
        | rest => stopAt .comma rest
      | rest => stopAt .colon rest
    | cs => stopAt .propertyName cs

/-- Reads a value in which arrays and objects are nested at most `depth` deep. -/
def readValue : Nat → List Char → Except Misplaced (Parsed Json)
  | 0, '[' :: rest => stopAt (.nesting false) ('[' :: rest)
  | 0, '{' :: rest => stopAt (.nesting true) ('{' :: rest)
  | depth + 1, '[' :: rest =>
    match skipSpace rest with
    | ']' :: rest => .ok (.array [], rest)
    | cs => do
      let (items, rest) ← readItems (readValue depth) (cs.length + 1) cs
      return (.array items, rest)
  | depth + 1, '{' :: rest =>
    match skipSpace rest with
    | '}' :: rest => .ok (.object [], rest)
    | cs => do
      let (fields, rest) ← readFields (readValue depth) (cs.length + 1) cs
      return (.object (Entries.ofPairs fields), rest)
  | _, cs => readScalar cs

/-- How deep arrays and objects may be nested. -/
def maxDepth : Nat := 990

/-- Reads a whole document. -/
def readDocument (cs : List Char) : Except Misplaced Json :=
  if cs.head? = some '\uFEFF' then stopAt .byteOrderMark cs
  else do
    let (v, rest) ← readValue maxDepth (skipSpace cs)
    match skipSpace rest with
    | [] => return v
    | rest => stopAt .extraData rest

/-- What is wrong with a document, and at which line, column and character. -/
structure ReadError where
  fault : Fault
  line : Nat
  column : Nat
  position : Nat
deriving DecidableEq, Repr

/-- The place of a fault in the text: lines and columns are counted from one. -/
def Misplaced.locate (m : Misplaced) (cs : List Char) : ReadError :=
  let before := cs.take (cs.length - m.left)
  let lastLine := before.reverse.takeWhile (· != '\n')
  ⟨m.fault, before.count '\n' + 1, lastLine.length + 1, before.length⟩

/-- Reads a JSON document. -/
def read (s : String) : Except ReadError Json :=
  (readDocument s.toList).mapError (·.locate s.toList)

/-- Whether the text is no JSON at all, rather than beyond a limit of the reader. -/
def Fault.isSyntax : Fault → Bool
  | .digits _ | .nesting _ => false
  | _ => true

def ReadError.message (e : ReadError) : String :=
  let located (what : String) := s!"{what}: line {e.line} column {e.column} (char {e.position})"
  match e.fault with
  | .value => located "Expecting value"
  | .extraData => located "Extra data"
  | .propertyName => located "Expecting property name enclosed in double quotes"
  | .colon => located "Expecting ':' delimiter"
  | .comma => located "Expecting ',' delimiter"
  | .controlCharacter => located "Invalid control character at"
  | .unterminated => located "Unterminated string starting at"
  | .escape => located "Invalid \\escape"
  | .unicodeEscape => located "Invalid \\uXXXX escape"
  | .byteOrderMark => located "Unexpected UTF-8 BOM (decode using utf-8-sig)"
  | .digits count => Text.tooManyDigits count
  | .nesting inObject =>
    "maximum recursion depth exceeded while decoding a JSON " ++
      (if inObject then "object" else "array") ++ " from a unicode string"

end UrlSigning.Json
