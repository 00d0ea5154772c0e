import UrlSigning.Provider.Basic
import UrlSigning.Run.Result

/-!
# Running

A run presigns one object for one provider after another, all of them from the same instant on. A
failure of this library's own makes an error result, and the run goes on; any other failure ends the
run. What a run does is told as a list of steps, in order, and reporters are functions on steps.
-/

namespace UrlSigning.Run

/-- What to presign for every provider. -/
structure Plan where
  objectKey : String
  method : String := "GET"
  /-- The length of the window of validity; each provider has its own when none is asked for. -/
  expires : Option Duration := none
  /-- The start of the window of validity; now when none is asked for. -/
  start : Option DateTime := none
  payload : Signing.Payload := .unsigned
  headers : Entries String String := []

inductive Step where
  /-- A provider's turn begins. -/
  | started (providerName : Json) (objectKey : String)
  | logged (event : Event)
  /-- A provider's turn is over. -/
  | completed (result : Result)
  /-- All turns are over. -/
  | finished (results : Results)

/-- The steps of a run, and its results or the failure that ended it. -/
structure Outcome where
  result : Except Failure Results
  steps : List Step

/-- What was logged on the way. -/
def Outcome.log (o : Outcome) : List Event :=
  o.steps.filterMap fun s =>
    match s with
    | .logged event => some event
    | _ => none

/-- The service in whose name requests are signed. -/
def service : String := "s3"

/-- The window of validity for a provider. -/
def windowFor (p : Provider) (plan : Plan) (start : DateTime) : Except Failure Signing.Window := do
  let length ← match plan.expires with
    | some length => pure length
    | none => (Duration.ofSeconds p.expires).mapError .time
  (Signing.Window.make start length).mapError .window

/-- The operation on a provider's object. -/
def operationFor (p : Provider) (plan : Plan) : Except Failure Pipeline.Operation := do
  return { method := plan.method, url := ← p.objectUrl plan.objectKey, headers := plan.headers }

/-- Presigns the object for a provider. -/
def presignFor (w : Pipeline.Surroundings) (p : Provider) (plan : Plan) (start : DateTime) :
    Pipeline.PresignOutcome :=
  match windowFor p plan start with
  | .error e => ⟨.error e, []⟩
  | .ok window =>
    match operationFor p plan with
    | .error e => ⟨.error e, []⟩
    | .ok operation =>
      Pipeline.presign w operation p.credentials p.region service window (some plan.payload) []

/-- A provider's turn: the result, or the failure that ends the run, and the events on the way. -/
structure Turn where
  result : Except Failure Result
  log : List Event

/-- Takes the turn of a provider, which is kept under a key. -/
def takeTurn (w : Pipeline.Surroundings) (key : String) (p : Provider) (plan : Plan)
    (start : DateTime) : Turn :=
  let presigned := presignFor w p plan start
  match presigned.result with
  | .ok request =>
    ⟨.ok ⟨p.key, p.name, plan.objectKey, .ok, some request, none⟩, presigned.log⟩
  | .error e =>
    if e.kind.isOwn then
      ⟨.ok ⟨key, p.name, plan.objectKey, .error, none, some e.message⟩,
        presigned.log ++ [.providerFailed key e.message]⟩
    else ⟨.error e, presigned.log⟩

/-- Takes the turns of the providers that are left, after those with results. -/
def runFrom (w : Pipeline.Surroundings) (plan : Plan) (start : DateTime) (results : Results) :
    List (String × Provider) → Outcome
  | [] => ⟨.ok results, [.finished results]⟩
  | (key, p) :: rest =>
    let turn := takeTurn w key p plan start
    let opening := .started p.name plan.objectKey :: turn.log.map .logged
    match turn.result with
    | .error e => ⟨.error e, opening⟩
    | .ok result =>
      let after := runFrom w plan start (results.put key result) rest
      ⟨after.result, opening ++ .completed result :: after.steps⟩

/-- Presigns the object for each provider. -/
def run (w : Pipeline.Surroundings) (clock : Pipeline.Clock) (providers : Entries String Provider)
    (plan : Plan) : Outcome :=
  runFrom w plan (plan.start.getD (clock.now w)) [] providers

end UrlSigning.Run
