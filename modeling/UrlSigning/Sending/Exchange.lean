import UrlSigning.Retry
import UrlSigning.Sending.Outgoing

/-!
# Sending

A presigned request is sent until an attempt succeeds or the strategy declines. An attempt fails if
the request cannot be made, if the network fails, or if the response does not say that all went
well. Nothing is sent on to another place, but a response that wants it has to name one.
-/

namespace UrlSigning

/-- A response. -/
structure Reply where
  status : Int
  headers : Http.Headers
  body : Bytes
deriving DecidableEq, Repr

namespace Reply

/-- Whether the response says that all went well. -/
def isSuccess (r : Reply) : Bool :=
  200 ≤ r.status && r.status ≤ 299

/-- The name of the field that says where to go on. -/
def locationName : String := "Location"

/-- Where the response sends the client on to. -/
def location? (r : Reply) : Option String :=
  if Http.redirectCodes.contains r.status && r.headers.has locationName then
    some (", ".intercalate (r.headers.getAll locationName))
  else none

/-- Checks that a place to go on to is a target. A place without a host, but with a scheme, is one
on the host of the request. -/
def checkLocation (request : Outgoing) (location : String) : Except Failure Unit := do
  let target ← (Url.Target.ofUrl location).mapError .location
  if !target.scheme.isEmpty && target.host.isEmpty && !request.target.host.isEmpty then
    (Url.Target.checkPath target.path.toList true true).mapError .target

/-- The response to a request, unless it says that the request failed. -/
def settle (request : Outgoing) (r : Reply) : Except Failure Reply := do
  (Outgoing.checkFields r.headers.fields).mapError .encoding
  r.location?.forM (checkLocation request)
  if r.isSuccess then return r
  else throw (.status ⟨r.status, request.target.text, r.location?⟩)

end Reply

namespace Sending

/-- One attempt: the request, if it could be made, and what came of it. -/
structure Attempt where
  request : Option Outgoing
  result : Except Failure Reply

/-- Makes an attempt. The network answers a request or fails. -/
def attempt (r : Presigned) (body : Bytes) (network : Outgoing → Except Failure Reply) : Attempt :=
  match Outgoing.ofPresigned r body with
  | .error e => ⟨none, .error e⟩
  | .ok request =>
    let request := request.authorize
    ⟨some request, (network request).bind (Reply.settle request)⟩

/-- Sends a presigned request with a body. The network is told the number of the attempt. -/
def send (r : Presigned) (body : Bytes) (strategy : Retry.Strategy)
    (network : Nat → Outgoing → Except Failure Reply) : Retry.Outcome Reply Attempt :=
  Retry.run strategy Attempt.result fun n => attempt r body (network n)

end Sending

end UrlSigning
