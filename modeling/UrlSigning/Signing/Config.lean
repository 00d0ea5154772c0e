import UrlSigning.Json.Value
import UrlSigning.Signing.Payload
import UrlSigning.Time.Duration

/-!
# Signing configurations

What the signer is told about one operation: the region and the service that the signature is for,
and the options of the signature. A configuration is a value, so editing a copy leaves the one it
was copied from as it is.
-/

namespace UrlSigning.Signing

/-- Where the signature is put. -/
inductive Location where
  | headers
  | query
deriving DecidableEq, Repr

def Location.name : Location → String
  | .headers => "headers"
  | .query => "query_params"

/-- The options of a signature. -/
structure Options where
  /-- For how long a signature in the query is valid. -/
  expires : Option Duration := none
  location : Location := .headers
  /-- What is signed in the place of the body. -/
  payload : Option Payload := none
  /-- Whether the path is encoded once more. -/
  encodePath : Bool := true
  /-- Whether dot segments and empty segments are taken out of the path. -/
  normalizePath : Bool := true
  /-- Whether the session token is left out. -/
  omitToken : Bool := false
deriving DecidableEq, Repr

/-- The signing configuration of an operation. The region may come from a configuration file, which
may hold any value there. -/
structure Config where
  region : Json
  service : String
  options : Options
deriving Repr, BEq

/-- The services whose paths are signed as they stand. -/
def rawPathServices : List String := ["s3", "s3-object-lambda"]

/-- The options that suit a service. -/
def Options.forService (service : String) : Options :=
  let raw := rawPathServices.contains service
  { encodePath := !raw, normalizePath := !raw }

/-- Keys to sign with. They may come from a configuration file, which may hold any value there. -/
structure Credentials where
  access : Json
  secret : Json
  token : Option String
deriving Repr

end UrlSigning.Signing
