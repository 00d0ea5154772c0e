import UrlSigning.Proofs.Presigning.Deadline

/-!
# The instant at which a window starts

A start is told by a clock with an offset, and the signer asks only which instant it is. So clocks
that are ahead of each other, on which it may even be another day, presign the same URL. What a
clock shows comes back only in the end of the window, which is told by the same clock.
-/

namespace UrlSigning

open Signing

namespace Pipeline

section

variable {w w' : Surroundings} {o : Operation} {credentials : Option Credentials} {region : Json}
  {service : String} {window window' : Window} {payload : Option Payload} {m : Presigned}
  {c : Credentials} {expires : Int} {time : DateTime}

end

end Pipeline

end UrlSigning
