import UrlSigning.Event
import UrlSigning.Http.Request
import UrlSigning.Pipeline.Bag
import UrlSigning.Retry
import UrlSigning.Time.Iso

/-!
# Interceptors

An interceptor is called at fixed points of a request's way and may change the request or leave
settings for later stages. All interceptors of a kind are passed over while the bag holds a reason
for it. A chain calls its interceptors in order and stops at the first failure.
-/

namespace UrlSigning.Pipeline

open Http

/-- One thing that a scripted interceptor does. -/
inductive Action where
  /-- Fails, in the attempts that are listed or in all of them. -/
  | fail (e : Failure) (attempts : Option (List Int))
  | setHeader (name value : String)
  | addHeader (name value : String)
  | setUrl (url : String)
  | put (s : Setting)
  | unset (key : SettingKey)

/-- What an interceptor does at the hooks. -/
inductive Behaviour where
  | inert
  /-- Stamps an id of its own on every request. -/
  | invocationId
  /-- Stamps the number of the attempt and the greatest number of attempts. -/
  | requestInfo
  /-- Stamps the product and its version, followed by more words. -/
  | userAgent (product version : String) (extras : List String)
  /-- Has the signature put into the query, for the length of a window, over a payload. -/
  | presigning (window : Signing.Window) (payload : Signing.Payload)
  | scripted (actions : Hook → List Action)

structure Interceptor where
  kind : String
  behaviour : Behaviour

/-- What the surroundings tell a request. -/
structure Surroundings where
  now : DateTime
  invocationId : String

/-- A request on its way. -/
structure Pass where
  bag : Bag
  /-- The request, once there is one. -/
  request : Option Request := none
  attempt : Int := 1
  log : List Event := []

/-- A step on a request's way, which may fail and leaves the request as far as it had come. -/
abbrev Stage := ExceptT Failure (StateM Pass)

namespace Stage

def tell (e : Event) : Stage Unit :=
  modify fun p => { p with log := p.log ++ [e] }

def putSetting (s : Setting) : Stage Unit :=
  modify fun p => { p with bag := p.bag.put s }

/-- Changes the request; `part` names what is asked of it when there is none. -/
def changeRequest (part : String) (f : Request → Request) : Stage Unit := do
  match (← get).request with
  | none => throw (.noRequest part)
  | some r => modify fun p => { p with request := some (f r) }

/-- Sets a header of the request. -/
def setHeader (name value : String) : Stage Unit :=
  changeRequest "headers" fun r => { r with headers := r.headers.set name value }

end Stage

/-- Does what an action says. -/
def Action.perform : Action → Stage Unit
  | .fail e attempts => do
    let attempt := (← get).attempt
    if (attempts.map fun listed => listed.contains attempt).getD true then throw e
  | .setHeader name value => Stage.setHeader name value
  | .addHeader name value =>
    Stage.changeRequest "headers" fun r => { r with headers := r.headers.add name value }
  | .setUrl url => Stage.changeRequest "url" fun r => { r with url := url }
  | .put s => Stage.putSetting s
  | .unset key => modify fun p => { p with bag := p.bag.unset key }

/-- The configuration with the signature in the query, for the length of a window, over a payload;
all else stays. -/
def presigned (window : Signing.Window) (payload : Signing.Payload) (c : Signing.Config) :
    Signing.Config :=
  { c with
    options :=
      { c.options with
        expires := some window.length
        location := .query
        payload := some payload } }

/-- The product and its version, followed by the other words. -/
def userAgentText (product version : String) (extras : List String) : String :=
  " ".intercalate (s!"{product}/{version}" :: extras)

/-- Edits the signing configuration for presigning; there has to be one. -/
def editConfig (window : Signing.Window) (payload : Signing.Payload) : Stage Unit := do
  match (← get).bag.signing? with
  | none => throw .missingSetup
  | some c => do
    Stage.putSetting (.signing (presigned window payload c))
    Stage.tell (.presigning c.service window.length)

/-- A step that is taken before the request is signed and at no other hook. -/
def whenSigning (hook : Hook) (step : Stage Unit) : Stage Unit :=
  if hook = .beforeSigning then step else pure ()

/-- What an interceptor does at a hook. -/
def Behaviour.call (w : Surroundings) (maxAttempts : Nat) (hook : Hook) : Behaviour → Stage Unit
  | .inert => pure ()
  | .invocationId => whenSigning hook (Stage.setHeader "amz-sdk-invocation-id" w.invocationId)
  | .requestInfo => whenSigning hook do
    let attempt := (← get).attempt
    Stage.setHeader "amz-sdk-request" s!"attempt={attempt}; max={maxAttempts}"
  | .userAgent product version extras =>
    whenSigning hook (Stage.setHeader "User-Agent" (userAgentText product version extras))
  | .presigning window payload =>
    match hook with
    | .beforeSerialization =>
      Stage.putSetting (.headerDefaults (HeaderDefaults.withoutType (.withoutLength {})))
    | .beforeSigning => editConfig window payload
    | _ => pure ()
  | .scripted actions => (actions hook).forM Action.perform

/-- Calls an interceptor at a hook, unless its kind is switched off. -/
def Interceptor.call (w : Surroundings) (maxAttempts : Nat) (hook : Hook) (i : Interceptor) :
    Stage Unit := do
  let pass ← get
  match pass.bag.disabledReason? i.kind with
  | some reason => Stage.tell (.skipped i.kind hook reason)
  | none => do
    Stage.tell (.running i.kind hook pass.attempt pass.request.isSome)
    i.behaviour.call w maxAttempts hook

/-- Calls the interceptors of a chain at a hook, in order. -/
def callAll (w : Surroundings) (maxAttempts : Nat) (hook : Hook) (chain : List Interceptor) :
    Stage Unit :=
  chain.forM (·.call w maxAttempts hook)

namespace Interceptor

def invocationId : Interceptor := ⟨"InvocationIdInterceptor", .invocationId⟩

def requestInfo : Interceptor := ⟨"RequestInfoInterceptor", .requestInfo⟩

/-- The product and the version that are stamped when nothing else is said. -/
def defaultProduct : String := "presigner"

def defaultVersion : String := "1.0.0"

def userAgent : Interceptor :=
  ⟨"UserAgentInterceptor", .userAgent defaultProduct defaultVersion []⟩

def presigning (window : Signing.Window) (payload : Signing.Payload) : Interceptor :=
  ⟨"PresigningInterceptor", .presigning window payload⟩

end Interceptor

/-- A presigning interceptor as messages show it. -/
def presigningShown (window : Signing.Window) (payload : Signing.Payload) : String :=
  s!"PresigningInterceptor(start_time={Time.Iso.text window.start}, " ++
    s!"expires={window.length.text}, payload_override={payload.shown})"

end UrlSigning.Pipeline
