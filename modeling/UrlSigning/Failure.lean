import UrlSigning.Http.Fault
import UrlSigning.Signing.Config
import UrlSigning.Signing.Window
import UrlSigning.Url.Fault
import UrlSigning.Url.Target

/-!
# Failures

Why a request could not be signed or sent. A failure is one of the causes that this library knows,
or one that a collaborator raised, of some kind and with a message of its own.
-/

namespace UrlSigning

/-- The kinds of failures that are told apart. -/
inductive FailureKind where
  /-- An error of this library of no special kind. -/
  | general
  | window
  | presigning
  | missingSetup
  | signing
  | exhausted
  | connect
  | connectTimeout
  | readTimeout
  /-- A response whose status code says that the request failed. -/
  | status (code : Int)
  /-- A URL to which no request can be sent. -/
  | target
  /-- A text that cannot be written in the characters of a header. -/
  | encoding
  /-- A response that breaks the rules. -/
  | protocol
  | value
  | overflow
  | wrongType
  | wrongAttribute
  | wrongIndex
  | other (name : String)
deriving DecidableEq, Repr

/-- Whether the kind is one of this library's own errors about a request. -/
def FailureKind.isOwn : FailureKind → Bool
  | .general | .window | .presigning | .missingSetup | .signing => true
  | _ => false

namespace Signing

/-- Why the signer refuses a request. -/
inductive Fault where
  | noCredentials
  /-- The expiry is no positive whole number of seconds. -/
  | expiry (seconds : Binary64)
  /-- The retry strategy does not allow the first attempt. -/
  | refused
  /-- No stage has set up a signing configuration. -/
  | noConfig
deriving DecidableEq, Repr

def Fault.message : Fault → String
  | .noCredentials => "Unable to sign request without credentials"
  | .expiry seconds =>
    "Presigned expiry must be a positive whole number of seconds, got " ++
      Decimal.text Decimal.messageNames seconds
  | .refused => "Retry strategy refused the initial attempt"
  | .noConfig => "No signing configuration was established"

/-- What is said when presigning finds no signing configuration to edit. -/
def missingSetupMessage : String :=
  "Presigning requires a SigningOperationConfig to be in the config bag before the signing " ++
    "stage. The signing setup plugin was not registered ahead of the presigning plugin."

end Signing

/-- Why an endpoint that is no text cannot be used. -/
inductive EndpointFault where
  /-- The value is an array or an object. -/
  | compound (kindName : String)
  /-- The value is a number or a truth value. -/
  | notText (kindName : String)
  /-- There is no value, and the bucket is in the host or in the path. -/
  | missing (bucketInHost : Bool)
deriving DecidableEq, Repr

def EndpointFault.message : EndpointFault → String
  | .compound kindName => s!"unhashable type: '{kindName}'"
  | .notText kindName => s!"'{kindName}' object has no attribute 'decode'"
  | .missing true => "Cannot mix str and non-str arguments"
  | .missing false => "a bytes-like object is required, not 'str'"

inductive Failure where
  | window (fault : Signing.Window.Fault)
  | missingSetup
  | signing (fault : Signing.Fault)
  | url (fault : Url.Fault)
  | time (fault : Time.Fault)
  | endpoint (fault : EndpointFault)
  | target (fault : Url.Target.Fault)
  | encoding (fault : Http.EncodingFault)
  /-- The response sends the client on to what is no target. -/
  | location (fault : Url.Target.Fault)
  /-- The response does not say that all went well. -/
  | status (fault : Http.StatusFault)
  /-- The URL has no host to sign. -/
  | noHost
  /-- An interceptor asks for a part of the request before there is one. -/
  | noRequest (part : String)
  /-- An item of a scope is no text: its place, and the kind of value that it is. -/
  | scopeItem (place : Nat) (kindName : String)
  /-- There is no delay for the number of attempts. -/
  | noDelay
  /-- A failure that a collaborator raised. -/
  | raised (kind : FailureKind) (message : String)
  /-- So many attempts failed, the last of them with a failure that would have been tried again. -/
  | exhausted (message : String) (attempts : Int) (last : Option Failure)
deriving Repr

namespace Failure

def kind : Failure → FailureKind
  | .window _ => .window
  | .missingSetup => .missingSetup
  | .signing _ => .signing
  | .url _ => .value
  | .time fault => if fault.isOverflow then .overflow else .value
  | .target _ => .target
  | .encoding _ => .encoding
  | .location _ => .protocol
  | .status fault => .status fault.code
  | .endpoint (.notText _) | .noHost | .noRequest _ => .wrongAttribute
  | .endpoint _ => .wrongType
  | .scopeItem _ _ => .wrongType
  | .noDelay => .wrongIndex
  | .raised kind _ => kind
  | .exhausted _ _ _ => .exhausted

def message : Failure → String
  | .window fault => fault.message
  | .missingSetup => Signing.missingSetupMessage
  | .signing fault => fault.message
  | .url fault => fault.message
  | .time fault => fault.message
  | .endpoint fault => fault.message
  | .target fault => fault.message
  | .encoding fault => fault.message
  | .location fault => s!"Invalid URL in location header: {fault.message}."
  | .status fault => fault.message
  | .noHost => "'NoneType' object has no attribute 'split'"
  | .noRequest part => s!"'NoneType' object has no attribute '{part}'"
  | .scopeItem place kindName =>
    s!"sequence item {place}: expected str instance, {kindName} found"
  | .noDelay => "tuple index out of range"
  | .raised _ message => message
  | .exhausted message _ _ => message

end Failure

end UrlSigning
