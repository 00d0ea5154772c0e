import UrlSigning.Event
import UrlSigning.Signing.Canonical
import UrlSigning.Time.Stamp

/-!
# The signer

Signing puts a signature into a request, into a header or into the query of its URL. The work goes
in three steps: the request is prepared, so that it holds all that is signed; the canonical request
is written and signed; and the signature is put in. A step that fails leaves the request as far as
it had come, and the result says so.
-/

namespace UrlSigning.Signing

open Http

/-- What signing leaves: the request, what was told, and the failure if there was one. -/
structure Signed where
  request : Request
  log : List Event
  failure : Option Failure

/-- All that a signature is made from, apart from the request. -/
structure Signer where
  credentials : Option Credentials
  region : Json
  service : String
  location : Location
  /-- The time of the signature, in universal time. -/
  time : DateTime
  /-- What is signed in the place of the body. -/
  payload : Option Payload
  normalizePath : Bool
  encodePath : Bool
  /-- The seconds for which a signature in the query is valid. -/
  expires : Int

namespace Signer

/-- The seconds for which a signature in the query is valid when nothing is said. -/
def defaultExpires : Int := 3600

/-- The time of the signature as it is written. -/
def stamp (s : Signer) : String := Time.Stamp.text s.time

def scope (s : Signer) : Scope :=
  ⟨Time.Stamp.scopeDate s.stamp, s.region, s.service⟩

/-- What is signed for the payload: what was asked for, or else the hash of the body for a signature
in a header and the word for no hash for one in the query. -/
def payloadHash (s : Signer) (r : Request) : String :=
  match s.payload, s.location with
  | some payload, _ => payload.hash
  | none, .headers => (Payload.bytes (r.body.getD [])).hash
  | none, .query => Payload.unsigned.hash

def form (s : Signer) : CanonicalForm :=
  ⟨s.normalizePath, s.encodePath, s.payloadHash⟩

/-- The request with its date: in the header for dates if there is one, else in a header of the
signature. -/
def setDate (s : Signer) (h : Headers) : Headers × Option Failure :=
  if h.has "Date" then
    let h := h.erase "Date"
    match Time.Stamp.readBack s.time with
    | .ok date => ((h.add "Date" (Time.Stamp.mailText date s.time)).erase "X-Amz-Date", none)
    | .error fault => (h, some (.time fault))
  else (h.set "X-Amz-Date" s.stamp, none)

/-- The request with a session token, if there is one. -/
def setToken (token : Option String) (h : Headers) : Headers :=
  match token with
  | none => h
  | some token => if token.isEmpty then h else h.set "X-Amz-Security-Token" token

/-- Prepares a request for a signature in a header: the old signature goes, the date and the token
are put in. -/
def prepareHeaders (s : Signer) (c : Credentials) (r : Request) : Request × Option Failure :=
  match s.setDate (r.headers.erase "Authorization") with
  | (h, some failure) => ({ r with headers := h }, some failure)
  | (h, none) => ({ r with headers := setToken c.token h }, none)

/-- The content type that is taken out of a request whose signature goes into the query. -/
def formContentType : String := "application/x-www-form-urlencoded; charset=utf-8"

/-- The headers without the content type of a form. -/
def dropFormType (h : Headers) : Headers :=
  if h.get? "content-type" = some formContentType then h.erase "content-type" else h

/-- The parameters of a signature in the query, but for the signature. -/
def authParameters (s : Signer) (c : Credentials) (credential names : String) :
    List (String × String) :=
  [("X-Amz-Algorithm", algorithm), ("X-Amz-Credential", credential), ("X-Amz-Date", s.stamp),
    ("X-Amz-Expires", toString s.expires), ("X-Amz-SignedHeaders", names)] ++
    (c.token.map fun token => ("X-Amz-Security-Token", token)).toList

/-- The URL with the parameters of the signature after those that it has. -/
def queryUrl (s : Signer) (c : Credentials) (r : Request) : Except Failure String := do
  let fields ← fieldsToSign r
  let credential ← s.scope.credential c.access
  let parts ← (Url.split r.url).mapError .url
  let own := Url.Query.firstValues (Url.Query.read parts.query)
  let query := (if own.isEmpty then "" else Url.Query.write own ++ "&") ++
    Url.Query.write (s.authParameters c credential (signedNames fields))
  return Url.join { parts with query := query }

/-- Prepares a request for a signature in the query. The body stays where it is. -/
def prepareQuery (s : Signer) (c : Credentials) (r : Request) : Request × Option Failure :=
  let r := { r with headers := dropFormType r.headers }
  match s.queryUrl c r with
  | .ok url => ({ r with url := url }, none)
  | .error failure => (r, some failure)

def prepare (s : Signer) (c : Credentials) (r : Request) : Request × Option Failure :=
  match s.location with
  | .headers => s.prepareHeaders c r
  | .query => s.prepareQuery c r

/-- The value of the header that holds a signature. -/
def authorization (s : Signer) (c : Credentials) (r : Request) (signature : String) :
    Except Failure String := do
  let credential ← s.scope.credential c.access
  let fields ← fieldsToSign r
  return ", ".intercalate
    [s!"{algorithm} Credential={credential}", s!"SignedHeaders={signedNames fields}",
      s!"Signature={signature}"]

/-- Puts the signature into a prepared request: into a header at the end, or at the end of the
URL. -/
def inject (s : Signer) (c : Credentials) (r : Request) (signature : String) :
    Except Failure Request :=
  match s.location with
  | .headers => do
    let value ← s.authorization c r signature
    return { r with headers := r.headers.add "Authorization" value }
  | .query => return { r with url := r.url ++ s!"&X-Amz-Signature={signature}" }

/-- Signs a prepared request. -/
def signPrepared (s : Signer) (c : Credentials) (r : Request) : Signed :=
  match canonicalRequest s.form r with
  | .error failure => ⟨r, [], some failure⟩
  | .ok canonical =>
    match stringToSign s.stamp s.scope canonical with
    | .error failure => ⟨r, [.canonicalRequest canonical], some failure⟩
    | .ok text =>
      let log := [Event.canonicalRequest canonical, .stringToSign text]
      match s.inject c r (signature c.secret s.scope text) with
      | .error failure => ⟨r, log, some failure⟩
      | .ok signed => ⟨signed, log, none⟩

/-- Puts a signature into a request. -/
def addSignature (s : Signer) (r : Request) : Signed :=
  match s.credentials with
  | none => ⟨r, [], some (.signing .noCredentials)⟩
  | some c =>
    match s.prepare c r with
    | (r, some failure) => ⟨r, [], some failure⟩
    | (r, none) => s.signPrepared c r

end Signer

/-- The seconds of an expiry, which have to be a positive whole number. -/
def expirySeconds : Option Duration → Except Fault Int
  | none => .ok Signer.defaultExpires
  | some d =>
    let seconds := d.seconds
    match seconds.truncate? with
    | some n =>
      if seconds.isPositive && seconds.isWhole then .ok n else .error (.expiry seconds)
    | none => .error (.expiry seconds)

/-- The credentials without their session token, if it is to be left out and not empty. -/
def Credentials.withoutToken (omitted : Bool) (c : Credentials) : Credentials :=
  if omitted && (c.token.map fun t => !t.isEmpty).getD false then { c with token := none } else c

/-- The signer for a configuration, at a time told by some clock. -/
def Signer.ofConfig (config : Config) (credentials : Credentials) (now : DateTime) :
    Except Failure Signer := do
  let options := config.options
  let expires ← match options.location with
    | .query => (expirySeconds options.expires).mapError .signing
    | .headers => pure Signer.defaultExpires
  let time ← (now.toUtc).mapError .time
  return ⟨some (credentials.withoutToken options.omitToken), config.region, config.service,
    options.location, time, options.payload, options.normalizePath, options.encodePath, expires⟩

/-- Signs a request as a configuration says, at a time told by some clock. -/
def sign (config : Config) (credentials : Option Credentials) (now : DateTime) (r : Request) :
    Signed :=
  match credentials with
  | none => ⟨r, [], some (.signing .noCredentials)⟩
  | some c =>
    match Signer.ofConfig config c now with
    | .error failure => ⟨r, [], some failure⟩
    | .ok signer =>
      let signed := signer.addSignature r
      { signed with
        log := .signing r.method r.url config.options.location.name :: signed.log }

end UrlSigning.Signing
