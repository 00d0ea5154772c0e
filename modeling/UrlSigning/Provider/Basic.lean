import UrlSigning.Failure
import UrlSigning.Text.Percent
import UrlSigning.Url.Parts

/-!
# Providers

A provider of object storage: where it is reached, the keys to sign with, and the bucket that holds
the objects. An object is addressed with the bucket in the path or in the host. The fields come from
a configuration file or from the environment, and a file may hold any value in them, so they are
checked where they are used.
-/

namespace UrlSigning

structure Provider where
  key : String
  name : Json
  endpoint : Json
  access : Json
  secret : Json
  region : Json
  bucket : Json
  style : Json := .text "path"
  /-- The seconds for which a URL is valid when nothing else is asked for. -/
  expires : Int := 3600
  enabled : Json := .bool true
deriving Repr

namespace Provider

/-- The keys to sign with: none if both are missing. -/
def credentials (p : Provider) : Option Signing.Credentials :=
  if p.access.isGiven || p.secret.isGiven then some ⟨p.access, p.secret, none⟩ else none

/-- The style in which the bucket is in the host. -/
def hostStyle : String := "virtual"

def bucketInHost (p : Provider) : Bool :=
  p.style.text? == some hostStyle

/-- The endpoint's text. -/
def endpointText (p : Provider) : Except EndpointFault String :=
  match p.endpoint with
  | .text s => .ok s
  | .array items => .error (.compound (Json.array items).kindName)
  | .object fields => .error (.compound (Json.object fields).kindName)
  | v => if v.isGiven then .error (.notText v.kindName) else .error (.missing p.bucketInHost)

/-- The key as it stands in a path: without slashes in front, and encoded but for its slashes. -/
def encodeKey (key : String) : String :=
  Text.Percent.encode (Text.Percent.safeWith ['/'])
    (String.ofList (key.toList.dropWhile (· == '/')))

/-- The path without slashes at its end. -/
def dropLastSlashes (path : String) : String :=
  String.ofList (path.toList.reverse.dropWhile (· == '/')).reverse

/-- The URL of an object. -/
def objectUrl (p : Provider) (key : String) : Except Failure String := do
  let endpoint ← (p.endpointText).mapError .endpoint
  let parts ← (Url.split endpoint).mapError .url
  let encoded := encodeKey key
  let bucket := p.bucket.plain
  if p.bucketInHost then
    return Url.join ⟨parts.scheme, s!"{bucket}.{parts.authority}", s!"/{encoded}", "", ""⟩
  else
    let path := s!"{dropLastSlashes parts.path}/{bucket}/{encoded}"
    return Url.join ⟨parts.scheme, parts.authority, path, "", ""⟩

end Provider

end UrlSigning
