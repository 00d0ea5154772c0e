import UrlSigning.Pipeline.Interceptor

/-!
# Components

What a pipeline needs besides its settings: interceptors, a retry strategy and a clock. Builders
collect them; merging one builder into another appends the interceptors and replaces the strategy
and the clock only by ones that are there.
-/

namespace UrlSigning.Pipeline

/-- A source of the time: the surroundings, or one instant for ever. -/
inductive Clock where
  | system
  | pinned (instant : DateTime)
deriving DecidableEq, Repr

namespace Clock

def now (w : Surroundings) : Clock → DateTime
  | .system => w.now
  | .pinned instant => instant

/-- A pinned clock as messages show it. -/
def shown : Clock → String
  | .system => "system"
  | .pinned instant => s!"StaticTimeSource({Time.Iso.text instant})"

end Clock

/-- The components of a pipeline. -/
structure Components where
  interceptors : List Interceptor
  strategy : Retry.Strategy
  clock : Clock

/-- Components that are being collected, by someone with a name. -/
structure Builder where
  name : String
  interceptors : List Interceptor := []
  strategy : Option Retry.Strategy := none
  clock : Option Clock := none

namespace Builder

inductive Fault where
  | noStrategy (name : String)
  | noClock (name : String)
deriving DecidableEq, Repr

def Fault.message : Fault → String
  | .noStrategy name => s!"{name}: a retry strategy is required"
  | .noClock name => s!"{name}: a time source is required"

def withInterceptor (i : Interceptor) (b : Builder) : Builder :=
  { b with interceptors := b.interceptors ++ [i] }

def withStrategy (s : Option Retry.Strategy) (b : Builder) : Builder :=
  { b with strategy := s }

def withClock (c : Option Clock) (b : Builder) : Builder :=
  { b with clock := c }

/-- The builder with what another one collected. -/
def merge (b other : Builder) : Builder :=
  { b with
    interceptors := b.interceptors ++ other.interceptors
    strategy := other.strategy <|> b.strategy
    clock := other.clock <|> b.clock }

/-- The components, if there is a strategy and a clock. -/
def build (b : Builder) : Except Fault Components :=
  match b.strategy, b.clock with
  | none, _ => .error (.noStrategy b.name)
  | some _, none => .error (.noClock b.name)
  | some strategy, some clock => .ok ⟨b.interceptors, strategy, clock⟩

/-- The builder as messages show it. -/
def shown (b : Builder) : String :=
  s!"RuntimeComponentsBuilder({Text.Quoted.text b.name}, interceptors={b.interceptors.length})"

/-- What every pipeline starts from. -/
def defaults : Builder :=
  { name := "defaults"
    interceptors := [.invocationId, .requestInfo, .userAgent]
    strategy := some (.standard .immediate)
    clock := some .system }

end Builder

end UrlSigning.Pipeline
