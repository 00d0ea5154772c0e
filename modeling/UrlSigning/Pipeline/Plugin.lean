import UrlSigning.Pipeline.Components

/-!
# Plugins

A plugin contributes a layer of settings and components to a pipeline. Two of them make presigning:
one sets up the signing configuration, and one has the signature put into the query, pins the clock
to the start of the window, forbids further attempts and switches off the interceptors that stamp
what differs from call to call.
-/

namespace UrlSigning.Pipeline

structure Plugin where
  /-- The layer of settings, if the plugin has one. -/
  layer : Option Layer
  components : Builder

namespace Plugin

/-- A plugin that contributes nothing. -/
def plain : Plugin := ⟨none, { name := "RuntimePlugin" }⟩

/-- The signing configuration of an operation; without options, those that suit the service. -/
def setupConfig (region : Json) (service : String) (options : Option Signing.Options) :
    Signing.Config :=
  ⟨region, service, options.getD (.forService service)⟩

/-- Sets up a signing configuration. -/
def setup (config : Signing.Config) : Plugin where
  layer := some (Layer.ofSettings "SigningSetup" [.signing config])
  components := { name := "SigningSetupPlugin" }

/-- The reason for which presigning switches interceptors off. -/
def disabledReason : String := "presigning"

/-- Turns the requests of a pipeline into presigned ones. -/
def presigning (window : Signing.Window) (payload : Signing.Payload) : Plugin where
  layer := some (Layer.ofSettings "Presigning"
    ([Interceptor.invocationId, .requestInfo, .userAgent].map fun i =>
      .disabling i.kind (some disabledReason)))
  components :=
    { name := "PresigningRuntimePlugin"
      interceptors := [.presigning window payload]
      strategy := some (.once true)
      clock := some (.pinned window.start) }

end Plugin

end UrlSigning.Pipeline
