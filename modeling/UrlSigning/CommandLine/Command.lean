import UrlSigning.CommandLine.Plan
import UrlSigning.Provider.Load
import UrlSigning.Report.Console
import UrlSigning.Report.Document

/-!
# The command

What the program does with its arguments, the variables of its process and the files that it finds:
it loads the providers, makes a plan, runs it, and reports. What it printed, which files it left and
how it ended are the outcome. A failure that no rule of the program foresees ends it on the spot.
-/

namespace UrlSigning.CommandLine

open Run

/-- A reporter that the arguments ask for. -/
inductive Reporter where
  | console (quiet : Bool)
  | document (path : String)
deriving DecidableEq, Repr

/-- The reporters, in the order in which they hear of a step. -/
def reportersOf (a : Arguments) : List Reporter :=
  .console a.quiet :: (nonempty? a.jsonOutput).toList.map .document

/-- A failure that ends the program. -/
inductive Crash where
  | load (fault : Provider.LoadFault)
  | plan (fault : PlanFault)
  | run (failure : Failure)
  | console (fault : Report.Console.Fault)
  | file (fault : Files.Fault)

def Crash.message : Crash → String
  | .load fault => fault.message
  | .plan fault => fault.message
  | .run failure => failure.message
  | .console fault => fault.message
  | .file fault => fault.message

/-- How the program ends. -/
inductive Exit where
  | code (n : Nat)
  | refused (refusal : Refusal)
  | crashed (crash : Crash)

/-- What the program has done so far. -/
structure Session where
  printed : List Char := []
  tree : Files.Tree
  log : List Event := []

/-- What the program has done, and how it ended. -/
structure Outcome where
  exit : Exit
  session : Session
  /-- What it said about an end before its time. -/
  complaint : String := ""

/-- A reporter hears of a step. -/
def Reporter.hear (w : Pipeline.Surroundings) (s : Session) (step : Step) :
    Reporter → Session × Option Crash
  | .console quiet =>
    let output := Report.Console.print quiet step
    ({ s with printed := s.printed ++ output.text }, output.fault.map .console)
  | .document path =>
    match step with
    | .finished results =>
      match Report.writeDocument w.now results path s.tree with
      | .ok tree => ({ s with tree := tree }, none)
      | .error fault => (s, some (.file fault))
    | _ => (s, none)

/-- Reporters hear of a step, one after another, until one fails. -/
def hearAll (w : Pipeline.Surroundings) (s : Session) (step : Step) :
    List Reporter → Session × Option Crash
  | [] => (s, none)
  | r :: rest =>
    match r.hear w s step with
    | (s, none) => hearAll w s step rest
    | failed => failed

/-- What is logged is kept, and the reporters hear of everything else. -/
def play (w : Pipeline.Surroundings) (reporters : List Reporter) (s : Session) :
    List Step → Session × Option Crash
  | [] => (s, none)
  | .logged event :: rest => play w reporters { s with log := s.log ++ [event] } rest
  | step :: rest =>
    match hearAll w s step reporters with
    | (s, none) => play w reporters s rest
    | failed => failed

/-- Runs a plan and reports on it. -/
def carryOut (w : Pipeline.Surroundings) (a : Arguments) (providers : Entries String Provider)
    (plan : Plan) (t : Files.Tree) : Outcome :=
  let outcome := run w .system providers plan
  match play w (reportersOf a) { tree := t } outcome.steps, outcome.result with
  | (s, some crash), _ => ⟨.crashed crash, s, ""⟩
  | (s, none), .error e => ⟨.crashed (.run e), s, ""⟩
  | (s, none), .ok results => ⟨.code (if allOk results then 0 else 1), s, ""⟩

/-- Ends with a complaint. -/
def complain (t : Files.Tree) (complaint : String) : Outcome :=
  ⟨.code 2, { tree := t }, complaint ++ "\n"⟩

/-- The providers that arguments ask for, or how the program ends without them. -/
def chooseProviders (a : Arguments) (env : Provider.Environment) (t : Files.Tree) :
    Except Outcome (Entries String Provider) := do
  let providers ← match Provider.load env t a.config with
    | .ok providers => pure providers
    | .error fault =>
      if fault.isConfig then throw (complain t s!"Configuration error: {fault.message}")
      else throw ⟨.crashed (.load fault), { tree := t }, ""⟩
  match nonempty? a.providers with
  | none => return providers
  | some list =>
    let kept := keepListed list providers
    if kept.isEmpty then throw (complain t "No matching providers found")
    return kept

/-- Does what the arguments ask for. -/
def perform (w : Pipeline.Surroundings) (env : Provider.Environment) (t : Files.Tree)
    (a : Arguments) : Outcome :=
  if (nonempty? a.key).isNone then complain t "An object key is required (-k/--key)"
  else
    match chooseProviders a env t with
    | .error outcome => outcome
    | .ok providers =>
      match planOf a t with
      | .ok plan => carryOut w a providers plan t
      | .error fault =>
        if fault.isReported then complain t s!"Invalid arguments: {fault.message}"
        else ⟨.crashed (.plan fault), { tree := t }, ""⟩

/-- Does what a command line asks for. -/
def command (w : Pipeline.Surroundings) (env : Provider.Environment) (t : Files.Tree)
    (words : List String) : Outcome :=
  match readArguments words with
  | .ok a => perform w env t a
  | .error refusal => ⟨.refused refusal, { tree := t }, ""⟩

end UrlSigning.CommandLine
