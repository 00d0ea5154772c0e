import UrlSigning.Failure
import UrlSigning.Hash.Hmac
import UrlSigning.Http.Request
import UrlSigning.Text.Blank
import UrlSigning.Text.Utf8
import UrlSigning.Url.Parts
import UrlSigning.Url.Path
import UrlSigning.Url.Query

/-!
# Canonical requests

The text that stands for a request when it is signed, the text that stands for that together with
the time and the scope, and the key chain that turns a secret into the key of a signature. A
signature is the keyed hash of the second text.
-/

namespace UrlSigning.Signing

open Http

/-- The headers that may change on the way and are never signed. -/
def unsignedHeaders : List String :=
  ["baggage", "connection", "expect", "keep-alive", "proxy-authenticate", "proxy-authorization",
    "te", "traceparent", "tracestate", "trailer", "transfer-encoding", "upgrade", "user-agent",
    "x-amzn-trace-id"]

/-- A field that is signed. The host is the one field whose value may be missing. -/
abbrev SignedField := String × Option String

/-- The fields that are signed, their names in lower case, with the host at the end if the request
does not name it. -/
def fieldsToSign (r : Request) : Except Failure (List SignedField) := do
  let fields := (r.headers.fields.map fun (name, value) => (Text.lower name, some value)).filter
    fun f => !unsignedHeaders.contains f.1
  if fields.any fun f => Headers.sameName f.1 "host" then return fields
  else
    let host ← (Url.host? r.url).mapError .url
    return fields ++ [("host", host)]

/-- The texts in order, each of them once. -/
def sortedOnce (names : List String) : List String :=
  (names.eraseDups).mergeSort (· ≤ ·)

/-- The names of the signed fields, with semicolons between them. -/
def signedNames (fields : List SignedField) : String :=
  ";".intercalate (sortedOnce (fields.map fun f => Text.trim (Text.lower f.1)))

/-- The line of a signed field: its values with their runs of blanks collapsed, and commas between
them. -/
def headerLine (fields : List SignedField) (name : String) : Except Failure String := do
  let values ← (fields.filter fun f => Headers.sameName f.1 name).mapM fun f =>
    match f.2 with
    | some value => pure (Text.collapseBlanks value)
    | none => throw .noHost
  return name ++ ":" ++ ",".intercalate values

/-- The lines of the signed fields. -/
def headerLines (fields : List SignedField) : Except Failure String := do
  let lines ← (sortedOnce (fields.map (·.1))).mapM (headerLine fields)
  return "\n".intercalate lines

/-- The header that names the hash of the payload. -/
def contentHashHeader : String := "X-Amz-Content-SHA256"

/-- How the path of a request is signed, and what is signed for its payload. -/
structure CanonicalForm where
  normalizePath : Bool
  encodePath : Bool
  /-- The hash of the payload when no header names one. -/
  payloadHash : Request → String

/-- The text that stands for a request. -/
def canonicalRequest (form : CanonicalForm) (r : Request) : Except Failure String := do
  let parts ← (Url.split r.url).mapError .url
  let fields ← fieldsToSign r
  let lines ← headerLines fields
  return "\n".intercalate
    [Text.upper r.method, Url.Path.canonical form.normalizePath form.encodePath parts.path,
      Url.Query.sorted parts.query, lines ++ "\n", signedNames fields,
      (r.headers.get? contentHashHeader).getD (form.payloadHash r)]

/-- The name of the algorithm. -/
def algorithm : String := "AWS4-HMAC-SHA256"

/-- The word that ends every scope. -/
def scopeEnd : String := "aws4_request"

/-- Items with slashes between them, all of which have to be texts. -/
def joinScope (items : List Json) : Except Failure String := do
  let texts ← items.zipIdx.mapM fun (item, place) =>
    match item.text? with
    | some s => pure s
    | none => throw (.scopeItem place item.kindName)
  return "/".intercalate texts

/-- For what a signature is valid: a day, a region and a service. -/
structure Scope where
  date : String
  region : Json
  service : String

/-- The scope as it is signed. -/
def Scope.text (s : Scope) : Except Failure String :=
  joinScope [s.date, s.region, s.service, scopeEnd]

/-- The scope after the access key, as a verifier is told it. -/
def Scope.credential (s : Scope) (access : Json) : Except Failure String :=
  joinScope [access, s.date, s.region, s.service, scopeEnd]

/-- The text that is signed. -/
def stringToSign (stamp : String) (scope : Scope) (canonical : String) : Except Failure String := do
  let scopeText ← scope.text
  return "\n".intercalate
    [algorithm, stamp, scopeText, Text.Hex.text (Hash.sha256 (Text.Utf8.ofString canonical))]

/-- The key for a day, a region and a service, made from the secret by a chain of keyed hashes. -/
def signingKey (secret : Json) (scope : Scope) : Bytes :=
  [scope.date, scope.region.plain, scope.service, scopeEnd].foldl
    (fun key part => Hash.hmac key (Text.Utf8.ofString part))
    (Text.Utf8.ofString ("AWS4" ++ secret.plain))

/-- The signature of a text. -/
def signature (secret : Json) (scope : Scope) (text : String) : String :=
  Text.Hex.text (Hash.hmac (signingKey secret scope) (Text.Utf8.ofString text))

end UrlSigning.Signing
