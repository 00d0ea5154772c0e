import UrlSigning.Pipeline.Presign
import UrlSigning.Text.Base64

/-!
# Outgoing requests

A presigned request as it goes over the wire. The method is in upper case and the URL is read as a
target; the client adds the fields that say where the request goes and how long its body is, unless
the presigned request has them.
-/

namespace UrlSigning

structure Outgoing where
  method : String
  target : Url.Target
  headers : Http.Headers
  body : Bytes
deriving DecidableEq, Repr

namespace Outgoing

/-- The name of the field that says how long a body is. -/
def lengthName : String := "Content-Length"

/-- The name of the field that says how a body is sent. -/
def transferName : String := "Transfer-Encoding"

/-- The methods whose requests have a body, if only an empty one. -/
def bodyMethods : List String := ["POST", "PUT", "PATCH"]

/-- Checks that fields are written in ASCII characters: of each field the name, and then the
value. -/
def checkFields (fields : List (String × String)) : Except Http.EncodingFault Unit :=
  fields.forM fun f => do
    Http.checkAscii f.1
    Http.checkAscii f.2

/-- The fields with the length of a body at the end, unless the body is empty or the length is
there. -/
def addLength (headers : Http.Headers) (body : Bytes) : Http.Headers :=
  if body.isEmpty || headers.has lengthName then headers
  else headers.add lengthName (toString body.length)

/-- The fields with those in front that a client adds: the host, and the length of an empty body. -/
def addFront (method : String) (target : Url.Target) (headers : Http.Headers) : Http.Headers :=
  let host := if headers.has "Host" || target.host.isEmpty then []
    else [("Host", target.hostAndPort)]
  let hasLength := headers.has lengthName || headers.has transferName
  let length := if !hasLength && bodyMethods.contains method then [(lengthName, "0")] else []
  ⟨host ++ length ++ headers.fields⟩

/-- The request that sends a presigned one with a body. -/
def ofPresigned (r : Presigned) (body : Bytes) : Except Failure Outgoing := do
  let method := Text.upper r.method
  let target ← (Url.Target.ofUrl r.url).mapError .target
  (checkFields r.headers).mapError .encoding
  return ⟨method, target, addFront method target (addLength ⟨r.headers⟩ body), body⟩

/-- The field that proves who the user is. -/
def authorizationName : String := "Authorization"

/-- The value that proves who the user of a URL is: the name and the password behind its colon. -/
def authorization (user : String) : String :=
  let (name, password) := Text.cutFirst ':' user.toList
  let pair := Text.Percent.decodeChars name ++ ':' :: Text.Percent.decodeChars password
  "Basic " ++ String.ofList (Text.Base64.encode (Text.Utf8.encode pair))

/-- The fields with a value in the place of the first field of its name, and without the other ones;
at the end if there is none. -/
def replaceField (name value : String) : List (String × String) → List (String × String)
  | [] => [(name, value)]
  | f :: rest =>
    if Http.Headers.sameName f.1 name then
      (name, value) :: rest.filter fun g => !Http.Headers.sameName g.1 name
    else f :: replaceField name value rest

/-- The request with the field that proves who the user in its URL is, if there is one. -/
def authorize (r : Outgoing) : Outgoing :=
  if r.target.user.isEmpty || r.target.user == ":" then r
  else
    let fields := replaceField authorizationName (authorization r.target.user) r.headers.fields
    { r with headers := ⟨fields⟩ }

end Outgoing

end UrlSigning
