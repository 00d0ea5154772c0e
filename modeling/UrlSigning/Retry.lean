import UrlSigning.Failure

/-!
# Retries

A strategy says after a failed attempt whether there is another one, and after what delay. `run`
makes attempts until one succeeds or the strategy declines. The standard strategy tries again after
failures that pass by themselves, up to a number of attempts, and its delays follow a schedule whose
last entry is used again and again.
-/

namespace UrlSigning.Retry

/-- The codes of responses after which trying again may help. -/
def passingCodes : List Int := [429, 500, 502, 503, 504]

/-- Whether a failure may pass by itself. -/
def isPassing (e : Failure) : Bool :=
  match e.kind with
  | .connect | .connectTimeout | .readTimeout => true
  | .status code => passingCodes.contains code
  | _ => false

/-- Attempts with delays between them. -/
structure Schedule where
  maxAttempts : Nat
  /-- The delays in milliseconds. -/
  delays : List Int
  /-- Whether a failure is tried again. -/
  retries : Failure → Bool
  positive : 0 < maxAttempts
  nonempty : delays ≠ []

/-- The number of attempts is not positive. -/
inductive Fault where
  | tooFewAttempts
deriving DecidableEq, Repr

def Fault.message : Fault → String
  | .tooFewAttempts => "max_attempts must be at least 1"

/-- A schedule without delays has one of zero. -/
def orZero (delays : List Int) : List Int :=
  if delays.isEmpty then [0] else delays

theorem orZero_ne_nil (delays : List Int) : orZero delays ≠ [] := by
  cases delays <;> simp [orZero]

/-- The schedule of a number of attempts, which is checked, and delays. -/
def Schedule.make (maxAttempts : Int) (delays : List Int) (retries : Failure → Bool) :
    Except Fault Schedule :=
  if h : 0 < maxAttempts.toNat then
    .ok ⟨maxAttempts.toNat, orZero delays, retries, h, orZero_ne_nil delays⟩
  else .error .tooFewAttempts

/-- Five, fifteen and thirty seconds. -/
def defaultDelays : List Int := [5000, 15000, 30000]

/-- The schedule that is used when none is asked for: three attempts. -/
def Schedule.default : Schedule :=
  ⟨3, defaultDelays, isPassing, by decide, by decide⟩

/-- Three attempts without a pause between them. -/
def Schedule.immediate : Schedule :=
  ⟨3, [0], isPassing, by decide, by decide⟩

inductive Strategy where
  /-- One attempt, or none if even the first is not allowed. -/
  | once (allowed : Bool)
  | standard (schedule : Schedule)

/-- What follows a failed attempt. -/
inductive Decision where
  /-- Nothing; the failure stands. -/
  | stop
  /-- Nothing; the failure would have been tried again, had there been an attempt left. -/
  | exhausted
  /-- Another attempt after so many milliseconds. -/
  | retry (delay : Int)
deriving DecidableEq, Repr

/-- The delay after so many attempts: the entry of that number or the last one. A number of
attempts that is not positive counts from the end, and may fall off the schedule. -/
def Schedule.delay? (s : Schedule) (attempts : Int) : Option Int :=
  let place := min (attempts - 1) (s.delays.length - 1)
  if 0 ≤ place then s.delays[place.toNat]?
  else if 0 ≤ s.delays.length + place then s.delays[(s.delays.length + place).toNat]?
  else none

namespace Strategy

/-- What follows when so many attempts have been made and the last of them failed. -/
def decide (s : Strategy) (attempts : Int) (e : Failure) : Except Failure Decision :=
  match s with
  | .once _ => .ok .stop
  | .standard schedule =>
    if !schedule.retries e then .ok .stop
    else if schedule.maxAttempts ≤ attempts then .ok .exhausted
    else
      match schedule.delay? attempts with
      | some delay => .ok (.retry delay)
      | none => .error .noDelay

/-- The greatest number of attempts. -/
def maxAttempts : Strategy → Nat
  | .once _ => 1
  | .standard schedule => schedule.maxAttempts

/-- Whether the first attempt is allowed. -/
def allowsFirst : Strategy → Bool
  | .once allowed => allowed
  | .standard _ => true

/-- The strategy as messages show it. -/
def shown : Strategy → String
  | .once _ => "NeverRetryStrategy()"
  | .standard schedule => s!"StandardRetryStrategy(max_attempts={schedule.maxAttempts})"

end Strategy

/-- What attempts came to: the result, the attempts that were made and the delays between them. -/
structure Outcome (α β : Type) where
  result : Except Failure α
  passes : List β
  delays : List Int

/-- Makes attempts from number `attempt` on, at most `fuel` of them. -/
def runFrom {α β : Type} (s : Strategy) (result : β → Except Failure α) (make : Nat → β)
    (attempt : Nat) : Nat → Outcome α β
  | 0 => ⟨.error .noDelay, [], []⟩
  | fuel + 1 =>
    let pass := make attempt
    match result pass with
    | .ok value => ⟨.ok value, [pass], []⟩
    | .error e =>
      match s.decide attempt e with
      | .error e => ⟨.error e, [pass], []⟩
      | .ok .stop => ⟨.error e, [pass], []⟩
      | .ok .exhausted =>
        ⟨.error (.exhausted s!"Operation failed after {attempt} attempts" attempt (some e)), [pass],
          []⟩
      | .ok (.retry delay) =>
        let rest := runFrom s result make (attempt + 1) fuel
        ⟨rest.result, pass :: rest.passes, delay :: rest.delays⟩

/-- Makes attempts, numbered from one, until one succeeds or the strategy declines. There are no
more of them than the strategy allows, so the fuel is never used up. -/
def run {α β : Type} (s : Strategy) (result : β → Except Failure α) (make : Nat → β) :
    Outcome α β :=
  runFrom s result make 1 s.maxAttempts

end UrlSigning.Retry
