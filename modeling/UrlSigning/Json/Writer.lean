import UrlSigning.Json.Value

/-!
# Writing JSON

Values as JSON text in ASCII, either on one line or with one item a line, indented by two spaces for
each level. Characters beyond ASCII are escaped, the ones beyond the first plane as a pair.
-/

namespace UrlSigning.Json

/-- The escape of a sixteen-bit code. -/
def escapeCode (n : Nat) : List Char :=
  '\\' :: 'u' :: Text.Hex.padded .lower 4 n

/-- One character of a string. -/
def writeChar (c : Char) : List Char :=
  match c with
  | '"' => ['\\', '"']
  | '\\' => ['\\', '\\']
  | '\n' => ['\\', 'n']
  | '\r' => ['\\', 'r']
  | '\t' => ['\\', 't']
  | '\x0c' => ['\\', 'f']
  | '\x08' => ['\\', 'b']
  | c =>
    let n := c.toNat
    if 0x20 ≤ n ∧ n < 0x7F then [c]
    else if n < 0x10000 then escapeCode n
    else
      escapeCode (0xD800 + (n - 0x10000) / 0x400) ++ escapeCode (0xDC00 + (n - 0x10000) % 0x400)

/-- A string between its quotes. -/
def writeString (s : String) : List Char :=
  '"' :: s.toList.flatMap writeChar ++ ['"']

/-- The names of the numbers without digits. -/
def numberNames : Decimal.Names := ⟨"Infinity", "NaN"⟩

/-- A value that holds no others. -/
def writeScalar : Json → List Char
  | .null => ['n', 'u', 'l', 'l']
  | .bool true => ['t', 'r', 'u', 'e']
  | .bool false => ['f', 'a', 'l', 's', 'e']
  | .int n => (toString n).toList
  | .real x => (Decimal.text numberNames x).toList
  | .text s => writeString s
  | .array _ => ['[', ']']
  | .object _ => ['{', '}']

/-- What stands between the items, and around them, at a level of nesting. -/
structure Layout where
  /-- What begins an item at a level. -/
  lineBreak : Nat → List Char
  /-- What separates a field's name from its value. -/
  colon : List Char
  /-- What separates two items, before the line break. -/
  comma : List Char

/-- Everything on one line. -/
def compact : Layout :=
  ⟨fun _ => [], [':', ' '], [',', ' ']⟩

/-- One item a line. -/
def indented : Layout :=
  ⟨fun level => '\n' :: List.replicate (2 * level) ' ', [':', ' '], [',']⟩

mutual

/-- The text of a value at a level of nesting. -/
def write (l : Layout) (level : Nat) : Json → List Char
  | .array (v :: vs) =>
    '[' :: l.lineBreak (level + 1) ++ write l (level + 1) v ++ writeItems l (level + 1) vs ++
      l.lineBreak level ++ [']']
  | .object ((k, v) :: fields) =>
    '{' :: l.lineBreak (level + 1) ++ writeString k ++ l.colon ++ write l (level + 1) v ++
      writeFields l (level + 1) fields ++ l.lineBreak level ++ ['}']
  | v => writeScalar v

/-- The items after the first. -/
def writeItems (l : Layout) (level : Nat) : List Json → List Char
  | [] => []
  | v :: rest => l.comma ++ l.lineBreak level ++ write l level v ++ writeItems l level rest

/-- The fields after the first. -/
def writeFields (l : Layout) (level : Nat) : List (String × Json) → List Char
  | [] => []
  | (k, v) :: rest =>
    l.comma ++ l.lineBreak level ++ writeString k ++ l.colon ++ write l level v ++
      writeFields l level rest

end

/-- The document on one line. -/
def line (v : Json) : String :=
  String.ofList (write compact 0 v)

/-- The document with one item a line. -/
def page (v : Json) : String :=
  String.ofList (write indented 0 v)

end UrlSigning.Json
