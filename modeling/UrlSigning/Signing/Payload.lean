import UrlSigning.Hash.Sha256
import UrlSigning.Text.Quoted

/-!
# Payloads

What a signature covers in the place of a body: nothing, bytes that are at hand, a stream of unknown
length, or a digest that the caller worked out. The last line of what is signed is the payload's
hash, or a word that stands for it.
-/

namespace UrlSigning.Signing

/-- The word for a payload that is not covered. -/
def unsignedWord : String := "UNSIGNED-PAYLOAD"

/-- The word for a payload that is streamed. -/
def streamingWord : String := "STREAMING-UNSIGNED-PAYLOAD-TRAILER"

/-- Whether the character is a hexadecimal digit in lower case. -/
def isLowerHex (c : Char) : Bool :=
  c.isDigit || ('a' ≤ c && c ≤ 'f')

/-- Whether the text is taken for a digest: sixty-four hexadecimal digits in lower case, and perhaps
one line end after them. -/
def isDigestText (s : String) : Bool :=
  let digits := s.toList.takeWhile isLowerHex
  digits.length == 64 && (s.toList.drop 64 == [] || s.toList.drop 64 == ['\n'])

/-- A digest that a caller worked out. -/
structure Digest where
  text : String
  wellFormed : isDigestText text = true
deriving DecidableEq, Repr

inductive Payload where
  | unsigned
  | bytes (data : Bytes)
  | streaming
  | digest (d : Digest)
deriving DecidableEq, Repr

/-- A text that is no digest. -/
structure DigestFault where
  text : String
deriving DecidableEq, Repr

def DigestFault.message (f : DigestFault) : String :=
  s!"Expected a lowercase hex SHA-256 digest, got {Text.Quoted.text f.text}"

namespace Payload

/-- The payload of a digest that a caller worked out. -/
def ofDigest (s : String) : Except DigestFault Payload :=
  if h : isDigestText s = true then .ok (.digest ⟨s, h⟩) else .error ⟨s⟩

/-- The hash of the payload, or the word that stands for it. -/
def hash : Payload → String
  | .unsigned => unsignedWord
  | .bytes data => Text.Hex.text (Hash.sha256 data)
  | .streaming => streamingWord
  | .digest d => d.text

/-- The name of the kind of payload. -/
def kindName : Payload → String
  | .unsigned => "UnsignedPayload"
  | .bytes _ => "BytesBody"
  | .streaming => "StreamingUnsignedPayload"
  | .digest _ => "PrecomputedSha256"

/-- The payload as messages show it. -/
def shown (p : Payload) : String :=
  let inner := match p with
    | .unsigned | .streaming => ""
    | .bytes data => "data=" ++ Text.Quoted.bytes data
    | .digest d => "digest=" ++ Text.Quoted.text d.text
  s!"{p.kindName}({inner})"

end Payload

end UrlSigning.Signing
