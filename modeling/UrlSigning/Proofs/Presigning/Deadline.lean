import UrlSigning.Proofs.Presigning.Signer
import UrlSigning.Proofs.Signing.Frame
import UrlSigning.Proofs.Time.Stamp

/-!
# Until when a presigned URL is valid

A presigned URL says in its query when it was signed and for how many seconds it is valid, so anyone
who reads it can work out when it is refused. That is the end of the window that goes with it, but
for the parts of a second of the start, which a stamp leaves out; and there has to be a year of four
digits, as others are not filled up with zeros.
-/

namespace UrlSigning

open Signing

/-! ## The deadline that a URL says -/

namespace Pipeline

/-! ## Seconds -/

section

variable {o : Operation} {window : Window} {c : Credentials} {s : Signer} {m : Presigned}
  {finish : DateTime}

end

end Pipeline

end UrlSigning
