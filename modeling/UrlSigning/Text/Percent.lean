import UrlSigning.Text.Utf8

/-!
# Percent encoding

The bytes of a text, where a byte outside the safe characters is written as a percent sign and two
upper-case digits. The reader takes every well-formed escape, in either case, and leaves the rest
as it stands.
-/

namespace UrlSigning.Text.Percent

/-- The characters that every encoding leaves as they are. -/
def isUnreserved (c : Char) : Bool :=
  c.isAlphanum || c == '_' || c == '.' || c == '-' || c == '~'

/-- The characters left as they are when `extra` are safe too. -/
def safeWith (extra : List Char) (c : Char) : Bool :=
  isUnreserved c || extra.contains c

/-- One byte; `safe` tells the characters that stand for themselves. -/
def encodeByte (safe : Char → Bool) (b : UInt8) : List Char :=
  if b.toNat < 128 && safe (Char.ofNat b.toNat) then [Char.ofNat b.toNat]
  else '%' :: Hex.ofByte .upper b

/-- The encoding of a text. -/
def encodeChars (safe : Char → Bool) (cs : List Char) : List Char :=
  (Utf8.encode cs).flatMap (encodeByte safe)

/-- `encodeChars` on strings. -/
def encode (safe : Char → Bool) (s : String) : String :=
  String.ofList (encodeChars safe s.toList)

/-- The bytes of an encoded text, where a percent sign without two digits after it is itself. -/
def decodeBytes : List Char → Bytes
  | [] => []
  | '%' :: a :: b :: rest =>
    match Hex.value? a, Hex.value? b with
    | some high, some low => UInt8.ofNat (16 * high + low) :: decodeBytes rest
    | _, _ => Utf8.encodeChar '%' ++ decodeBytes (a :: b :: rest)
  | c :: rest => Utf8.encodeChar c ++ decodeBytes rest

/-- The text that the encoding stands for. Bytes that are no UTF-8 are read as replacement
characters. -/
def decodeChars (cs : List Char) : List Char :=
  Utf8.decodeLossy (decodeBytes cs)

/-- `decodeChars` on strings. -/
def decode (s : String) : String :=
  String.ofList (decodeChars s.toList)

end UrlSigning.Text.Percent
