import UrlSigning.Time.Duration

/-!
# Events

What a run tells about itself, in order: the hooks that it runs and passes over, the stages of
signing, and the failures that it carries on after.
-/

namespace UrlSigning

/-- The points of a request's way at which interceptors are called. -/
inductive Hook where
  | beforeExecution
  | beforeSerialization
  | afterSerialization
  | beforeSigning
  | afterSigning
deriving DecidableEq, Repr

namespace Hook

def all : List Hook :=
  [.beforeExecution, .beforeSerialization, .afterSerialization, .beforeSigning, .afterSigning]

def name : Hook → String
  | .beforeExecution => "read_before_execution"
  | .beforeSerialization => "modify_before_serialization"
  | .afterSerialization => "read_after_serialization"
  | .beforeSigning => "modify_before_signing"
  | .afterSigning => "read_after_signing"

def ofName? (name : String) : Option Hook :=
  all.find? (·.name == name)

end Hook

inductive Event where
  /-- A hook of an interceptor is passed over. -/
  | skipped (kind : String) (hook : Hook) (reason : String)
  /-- A hook of an interceptor is run, in an attempt, with a request or before there is one. -/
  | running (kind : String) (hook : Hook) (attempt : Int) (hasRequest : Bool)
  | presigning (service : String) (expires : Duration)
  | signing (method url location : String)
  | canonicalRequest (text : String)
  | stringToSign (text : String)
  /-- A provider was given up. -/
  | providerFailed (key message : String)
deriving DecidableEq, Repr

namespace Event

/-- The part of the library that an event is about. -/
inductive Source where
  | interceptors
  | presigning
  | signing
  | runner
deriving DecidableEq, Repr

/-- The name of a source, as a log shows it. -/
def Source.name : Source → String
  | .interceptors => "presigner.interceptors"
  | .presigning => "presigner.presigning"
  | .signing => "presigner.signing"
  | .runner => "presigner.runner"

def source : Event → Source
  | .skipped _ _ _ | .running _ _ _ _ => .interceptors
  | .presigning _ _ => .presigning
  | .signing _ _ _ | .canonicalRequest _ | .stringToSign _ => .signing
  | .providerFailed _ _ => .runner

/-- Whether the event is a warning rather than a detail of the run. -/
def isWarning : Event → Bool
  | .providerFailed _ _ => true
  | _ => false

/-- The word for how much an event matters. -/
def level (e : Event) : String :=
  if e.isWarning then "WARNING" else "DEBUG"

def message : Event → String
  | .skipped kind hook reason => s!"Skipping {kind}.{hook.name} (disabled: {reason})"
  | .running kind hook _ _ => s!"Running {kind}.{hook.name}"
  | .presigning service expires => s!"Presigning {service} request, expires in {expires.text}"
  | .signing method url location => s!"Signing {method} {url} ({location})"
  | .canonicalRequest text => "CanonicalRequest:\n" ++ text
  | .stringToSign text => "StringToSign:\n" ++ text
  | .providerFailed key message => s!"Presigning failed for {key}: {message}"

end Event

end UrlSigning
