import UrlSigning.Pipeline.Presign

/-!
# Results

What presigning one object came to for each provider: a request that can be sent, or a message that
says why there is none.
-/

namespace UrlSigning.Run

inductive Status where
  | ok
  | error
deriving DecidableEq, Repr

def Status.name : Status → String
  | .ok => "ok"
  | .error => "error"

/-- What presigning one object for one provider came to. -/
structure Result where
  providerKey : String
  providerName : Json
  objectKey : String
  status : Status
  request : Option Presigned := none
  message : Option String := none
deriving Repr

/-- The results by the keys of the providers, in the order of the providers. -/
abbrev Results := Entries String Result

def Result.isOk (r : Result) : Bool := r.status == .ok

/-- How many of the results are good. -/
def okCount (results : Results) : Nat :=
  results.countP (·.2.isOk)

/-- Whether there are results, and all of them are good. -/
def allOk (results : Results) : Bool :=
  !results.isEmpty && results.all (·.2.isOk)

end UrlSigning.Run
