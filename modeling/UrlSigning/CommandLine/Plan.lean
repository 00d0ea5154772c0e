import UrlSigning.CommandLine.Arguments
import UrlSigning.Files.Tree
import UrlSigning.Run.Progress
import UrlSigning.Text.Blank

/-!
# From arguments to a plan

The arguments of the command line as a plan of what to presign. The expiry is checked first, then
the start time is read, then the payload, and last the headers; the first fault is reported.
-/

namespace UrlSigning.CommandLine

open Text

/-- What is wrong with arguments. -/
inductive PlanFault where
  /-- The expiry is no length of time at all. -/
  | expiryOverflow (fault : Time.Fault)
  | expiryRange
  | startTime (fault : Time.Fault)
  | payloadFile (fault : Files.Fault)
  | digest (fault : Signing.DigestFault)
  /-- The header has no colon, or no name in front of it. -/
  | header (item : String)
deriving DecidableEq, Repr

namespace PlanFault

def message : PlanFault → String
  | .expiryOverflow fault => fault.message
  | .expiryRange => "--expires must be between 1 and 604800 seconds"
  | .startTime fault => fault.message
  | .payloadFile fault => fault.message
  | .digest fault => fault.message
  | .header item => s!"Invalid header {Quoted.text item}, expected NAME:VALUE"

/-- Whether the fault is reported as one of the arguments. -/
def isReported : PlanFault → Bool
  | .expiryOverflow _ => false
  | _ => true

end PlanFault

/-- Reads a start time. A capital Z at the end stands for universal time, and so does the lack of an
offset. -/
def readStartTime (value : String) : Except Time.Fault DateTime := do
  let cs := value.toList
  let text :=
    if cs.getLast? == some 'Z' then String.ofList (cs.dropLast ++ "+00:00".toList) else value
  return (← Time.Iso.read text).assumeUtc

/-- Reads a header of the form `NAME:VALUE`. -/
def readHeader (item : String) : Except PlanFault (String × String) :=
  match cutFirst? ':' item.toList with
  | some (name, value) =>
    let name := trimChars name
    if name.isEmpty then .error (.header item)
    else .ok (String.ofList name, String.ofList (trimChars value))
  | none => .error (.header item)

/-- Reads headers, of which the last one of a name counts. -/
def readHeaders (items : List String) : Except PlanFault (Entries String String) := do
  return .ofPairs (← items.mapM readHeader)

/-- The keys among those of a list with commas between them. -/
def keepListed {α : Type} (list : String) (entries : Entries String α) : Entries String α :=
  let listed := (cutAll ',' list.toList).map fun k => String.ofList (trimChars k)
  entries.filter fun e => listed.contains e.1

/-- A value that is given and not empty. -/
def nonempty? (value : Option String) : Option String :=
  value.filter (!·.isEmpty)

/-- What the signature is to cover. -/
def payloadOf (a : Arguments) (t : Files.Tree) : Except PlanFault Signing.Payload :=
  match nonempty? a.payloadFile, nonempty? a.payloadDigest with
  | some path, _ => ((t.read (.ofText path)).mapError .payloadFile).map .bytes
  | none, some digest => (Signing.Payload.ofDigest (lower digest)).mapError .digest
  | none, none => .ok (if a.streaming then .streaming else .unsigned)

/-- The length of the window of validity, in whole seconds from one to a week. -/
def expiryOf (seconds : Int) : Except PlanFault Duration := do
  let length ← (Duration.ofSeconds seconds).mapError .expiryOverflow
  if 0 < length.micros ∧ length.micros ≤ Signing.longest.micros then return length
  else throw .expiryRange

/-- The plan that arguments ask for. -/
def planOf (a : Arguments) (t : Files.Tree) : Except PlanFault Run.Plan := do
  let expires ← a.expires.mapM expiryOf
  let start ← a.startTime.mapM fun s => (readStartTime s).mapError .startTime
  let payload ← payloadOf a t
  let headers ← readHeaders a.headers
  return ⟨a.key.getD "", a.method, expires, start, payload, headers⟩

end UrlSigning.CommandLine
