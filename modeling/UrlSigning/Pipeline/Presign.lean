import UrlSigning.Pipeline.Orchestrator

/-!
# Presigning

A presigned request is a request whose signature is carried in the query of its URL for a window of
time, so that whoever holds it can send it later.
-/

namespace UrlSigning

/-- A signed request that can be sent later. -/
structure Presigned where
  method : String
  url : String
  headers : Entries String String := []
  expiresAt : Option DateTime := none
deriving DecidableEq, Repr

namespace Pipeline

/-- What presigning came to. -/
structure PresignOutcome where
  result : Except Failure Presigned
  log : List Event

/-- The plugins of presigning, with those of a caller between them. -/
def presignPlugins (region : Json) (service : String) (window : Signing.Window)
    (payload : Signing.Payload) (plugins : List Plugin) : List Plugin :=
  .setup (Plugin.setupConfig region service none) :: plugins ++ [.presigning window payload]

/-- The presigned request of a signed one. -/
def presignedOf (window : Signing.Window) (r : Http.Request) : Except Failure Presigned := do
  let finish ← (window.finish).mapError .time
  return ⟨r.method, r.url, .ofPairs r.headers.fields, some finish⟩

/-- Presigns an operation. Without a payload the signature covers none. -/
def presign (w : Surroundings) (o : Operation) (credentials : Option Signing.Credentials)
    (region : Json) (service : String) (window : Signing.Window)
    (payload : Option Signing.Payload) (plugins : List Plugin) : PresignOutcome :=
  let all := presignPlugins region service window (payload.getD .unsigned) plugins
  let invocation := invoke w all o credentials
  ⟨invocation.result.bind (presignedOf window), invocation.log⟩

end Pipeline

end UrlSigning
