import UrlSigning.Pipeline.Plugin
import UrlSigning.Pipeline.Serialize
import UrlSigning.Signing.Signer

/-!
# Orchestration

A pipeline is made from plugins: their layers, in order, are the bag of each attempt, and their
components, merged in order, run it. An attempt passes five hooks, with the serializer and the
signer between them, and begins with a fresh bag and no request. The retry strategy says how many
attempts there are.
-/

namespace UrlSigning.Pipeline

open Http

/-- The bag that an attempt begins with. -/
def freshBag (plugins : List Plugin) : Bag :=
  { layers := plugins.filterMap (·.layer) }

/-- The components of the plugins, merged in order into the ones that every pipeline has. -/
def mergedBuilder (plugins : List Plugin) : Builder :=
  plugins.foldl (fun b p => b.merge p.components) .defaults

/-- The stage of serialization. -/
def serializeStage (o : Operation) : Stage Unit :=
  modify fun p =>
    { p with request := some (o.serialize (p.bag.headerDefaults?.getD {})) }

/-- The stage of signing. The request keeps what signing did to it even when it fails. -/
def signStage (w : Surroundings) (clock : Clock) (credentials : Option Signing.Credentials) :
    Stage Unit := do
  let pass ← get
  match pass.bag.signing?, pass.request with
  | some config, some r =>
    let signed := Signing.sign config credentials (clock.now w) r
    set { pass with request := some signed.request, log := pass.log ++ signed.log }
    match signed.failure with
    | some failure => throw failure
    | none => pure ()
  | _, _ => throw (.signing .noConfig)

/-- One attempt, from the first hook to the last. -/
def attemptStage (w : Surroundings) (c : Components) (o : Operation)
    (credentials : Option Signing.Credentials) : Stage Unit := do
  let hook (h : Hook) := callAll w c.strategy.maxAttempts h c.interceptors
  hook .beforeExecution
  hook .beforeSerialization
  serializeStage o
  hook .afterSerialization
  hook .beforeSigning
  signStage w c.clock credentials
  hook .afterSigning

/-- What an attempt came to. -/
structure PassOutcome where
  failure : Option Failure
  pass : Pass

/-- The attempt of a number, on its own. -/
def runAttempt (w : Surroundings) (bag : Bag) (c : Components) (o : Operation)
    (credentials : Option Signing.Credentials) (attempt : Nat) : PassOutcome :=
  match (attemptStage w c o credentials).run.run { bag := bag, attempt := attempt } with
  | (.ok (), pass) => ⟨none, pass⟩
  | (.error failure, pass) => ⟨some failure, pass⟩

/-- The request of an attempt that succeeded. -/
def PassOutcome.result (p : PassOutcome) : Except Failure Request :=
  match p.failure, p.pass.request with
  | some failure, _ => .error failure
  | none, some r => .ok r
  | none, none => .error (.signing .noConfig)

/-- What an invocation came to: the result, what was told, and the delays. -/
structure Invocation where
  result : Except Failure Request
  log : List Event
  delays : List Int

/-- Sends an operation through a pipeline of these components, each attempt with a fresh bag. -/
def invokeWith (w : Surroundings) (bag : Bag) (c : Components) (o : Operation)
    (credentials : Option Signing.Credentials) : Invocation :=
  if c.strategy.allowsFirst then
    let outcome := Retry.run c.strategy PassOutcome.result (runAttempt w bag c o credentials)
    ⟨outcome.result, outcome.passes.flatMap (·.pass.log), outcome.delays⟩
  else ⟨.error (.signing .refused), [], []⟩

/-- Sends an operation through the pipeline of the plugins. -/
def invoke (w : Surroundings) (plugins : List Plugin) (o : Operation)
    (credentials : Option Signing.Credentials) : Invocation :=
  match (mergedBuilder plugins).build with
  | .error fault => ⟨.error (.raised .value fault.message), [], []⟩
  | .ok components => invokeWith w (freshBag plugins) components o credentials

end UrlSigning.Pipeline
