import UrlSigning.Http.Headers
import UrlSigning.Text.Hex

/-!
# Requests

A request as it is built and signed: its method, its URL, its header fields, and its body if it has
one.
-/

namespace UrlSigning.Http

structure Request where
  method : String
  url : String
  headers : Headers
  body : Option Bytes
deriving DecidableEq, Repr

end UrlSigning.Http
