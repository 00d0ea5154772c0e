import UrlSigning.Http.Status
import UrlSigning.Text.Quoted

/-!
# Faults of messages

What can be wrong with a request or with the response to it: a header that is not written in ASCII
characters, and a status that says that the request failed.
-/

namespace UrlSigning.Http

/-- The first run of characters outside ASCII: where it begins, and the characters in it. -/
structure EncodingFault where
  place : Nat
  run : List Char
deriving DecidableEq, Repr

/-- Whether the character is one of ASCII. -/
def isAscii (c : Char) : Bool :=
  c.toNat < 128

/-- Checks that a text is written in ASCII characters. -/
def checkAscii (s : String) : Except EncodingFault Unit :=
  let start := s.toList.takeWhile isAscii
  let run := (s.toList.dropWhile isAscii).takeWhile (!isAscii ·)
  if run.isEmpty then .ok () else .error ⟨start.length, run⟩

def EncodingFault.message (f : EncodingFault) : String :=
  let characters := match f.run with
    | [c] => s!"character '{String.ofList (Text.Quoted.escape c.toNat)}' in position {f.place}"
    | _ => s!"characters in position {f.place}-{f.place + f.run.length - 1}"
  s!"'ascii' codec can't encode {characters}: ordinal not in range(128)"

/-- A status that says that a request failed. -/
structure StatusFault where
  code : Int
  /-- The URL that the request was sent to. -/
  url : String
  /-- Where the response sends the client on to. -/
  location : Option String
deriving DecidableEq, Repr

/-- Where a status code is explained. -/
def statusPage (code : Int) : String :=
  s!"https://developer.mozilla.org/en-US/docs/Web/HTTP/Status/{code}"

def StatusFault.message (f : StatusFault) : String :=
  let label := (StatusClass.ofCode f.code).label
  let redirection := match f.location with
    | some location => s!"Redirect location: '{location}'\n"
    | none => ""
  s!"{label} '{f.code} {reasonPhrase f.code}' for url '{f.url}'\n{redirection}" ++
    s!"For more information check: {statusPage f.code}"

end UrlSigning.Http
