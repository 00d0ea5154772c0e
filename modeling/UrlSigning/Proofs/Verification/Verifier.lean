import UrlSigning.Hash.Hmac
import UrlSigning.Pipeline.Presign
import UrlSigning.Text.Blank
import UrlSigning.Text.Utf8
import UrlSigning.Url.Parts
import UrlSigning.Url.Query

/-!
# A verifier of presigned requests

What a service does that is sent a presigned request. It sees the method, the URL and the headers,
knows the secret, its own region and name and the hash of the payload, and works the signature out
again from nothing else: it takes the signature out of the query, reads there when the request was
signed and which headers were, and writes down what must have been signed.
-/

namespace UrlSigning.Verification

open Http

/-- What a verifier knows besides the request. -/
structure Verifier where
  secret : String
  region : String
  service : String
  payloadHash : String

/-- What the query of a presigned request says about its signature. -/
structure SignedQuery where
  signature : String
  /-- When the request was signed. -/
  stamp : String
  /-- The names of the headers that were signed, in order. -/
  names : List String
  /-- The pairs of the query as they stand, without the signature. -/
  rest : List (String × String)

/-- Reads the query of a presigned request, which must hold one signature. -/
def SignedQuery.read? (query : String) : Option SignedQuery := do
  let pairs := Url.Query.rawPairs query
  let parameters := Url.Query.read query
  match pairs.filter (·.1 == "X-Amz-Signature") with
  | [(_, signature)] =>
    let stamp ← parameters.lookup "X-Amz-Date"
    let names ← parameters.lookup "X-Amz-SignedHeaders"
    return {
      signature := signature
      stamp := stamp
      names := (Text.cutAll ';' names.toList).map String.ofList
      rest := pairs.filter (·.1 != "X-Amz-Signature") }
  | _ => none

/-- The values of the headers of a name; the host of the URL, if no header names the host. -/
def headerValues? (r : Presigned) (name : String) : Option (List String) :=
  let values := (r.headers.filter fun f => Headers.sameName f.1 name).map (·.2)
  if values.isEmpty && name == "host" then
    match Url.host? r.url with
    | .ok (some host) => some [host]
    | _ => none
  else some values

/-- The line of a signed header: its values, trimmed and with their runs of blanks collapsed, and
commas between them. -/
def headerLine? (r : Presigned) (name : String) : Option String :=
  (headerValues? r name).map fun values =>
    name ++ ":" ++ ",".intercalate (values.map Text.collapseBlanks)

/-- The day of a stamp. -/
def dayOf (stamp : String) : String :=
  String.ofList (stamp.toList.take 8)

namespace Verifier

/-- The request as it must have been signed. -/
def canonicalRequest? (v : Verifier) (r : Presigned) (path : String) (signed : SignedQuery) :
    Option String := do
  let lines ← signed.names.mapM (headerLine? r)
  return "\n".intercalate
    [r.method, path, Url.Query.writeRaw (signed.rest.mergeSort Url.Query.pairLe),
      "\n".intercalate lines ++ "\n", ";".intercalate signed.names, v.payloadHash]

/-- What must have been signed. -/
def stringToSign (v : Verifier) (stamp canonical : String) : String :=
  "\n".intercalate
    ["AWS4-HMAC-SHA256", stamp,
      "/".intercalate [dayOf stamp, v.region, v.service, "aws4_request"],
      Text.Hex.text (Hash.sha256 (Text.Utf8.ofString canonical))]

/-- The key of the day, made from the secret. -/
def key (v : Verifier) (stamp : String) : Bytes :=
  let day := Hash.hmac (Text.Utf8.ofString ("AWS4" ++ v.secret)) (Text.Utf8.ofString (dayOf stamp))
  let region := Hash.hmac day (Text.Utf8.ofString v.region)
  let service := Hash.hmac region (Text.Utf8.ofString v.service)
  Hash.hmac service (Text.Utf8.ofString "aws4_request")

/-- The signature that the request must have, worked out again. -/
def recompute? (v : Verifier) (r : Presigned) : Option String := do
  let parts ← (Url.split r.url).toOption
  let signed ← SignedQuery.read? parts.query
  let canonical ← v.canonicalRequest? r parts.path signed
  let text := v.stringToSign signed.stamp canonical
  return Text.Hex.text (Hash.hmac (v.key signed.stamp) (Text.Utf8.ofString text))

end Verifier

/-- The signature that the request carries. -/
def signature? (r : Presigned) : Option String := do
  let parts ← (Url.split r.url).toOption
  let signed ← SignedQuery.read? parts.query
  return signed.signature

end UrlSigning.Verification
