import UrlSigning.Proofs.Console.Markup
import UrlSigning.Proofs.Report.Console
import UrlSigning.Proofs.Time.Written

/-!
# The request on the console

The URL of a good result is printed as a text with markup, on a line of its own. So it is shown as it
is just when nothing in it is taken for markup, swallowed or laid out; and what is shown of the
method and the headers, or of the URL itself, may be a fault if a stretch is ended in it.
-/

namespace UrlSigning

namespace Console

/-! ## Printed lines -/

section

variable {cs : List Char}

end

end Console

namespace Report.Console

open UrlSigning.Console Run

section

variable {s : String} {shown : List Char}

end

/-! ## The lines of a request -/

section

end

/-! ## The whole request -/

section

variable {r : Result} {m : Presigned}

/-- A good result with this request. -/
def Sample.good (m : Presigned) : Result :=
  { providerKey := "main", providerName := "Main", objectKey := "a.txt", status := .ok,
    request := some m }

/-- A URL with a header whose value looks like a tag. -/
def Sample.tagged : Presigned :=
  { method := "GET", url := "https://s3.example.com/bucket/a%5D.txt?X-Amz-Signature=abc",
    headers := [("x-amz-meta-tag", "[b] [x]")] }

end

end Report.Console

end UrlSigning
