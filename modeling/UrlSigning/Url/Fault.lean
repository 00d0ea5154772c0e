import UrlSigning.Text.Digit
import UrlSigning.Text.Quoted

/-!
# Faults of URLs

What can be wrong with the host or the port of a URL, and what is said of it.
-/

namespace UrlSigning.Url

inductive Fault where
  /-- The brackets around the host do not match, or something stands beside them. -/
  | brackets
  /-- The host in brackets begins like an address of a later version and is none. -/
  | laterVersion
  /-- The host in brackets is no address. -/
  | noAddress (host : String)
  /-- The host in brackets is an address of the fourth version. -/
  | bracketedV4
  /-- A character of the authority has an equivalent that separates parts of a URL. -/
  | equivalents (authority : String)
  /-- The port is no number. -/
  | port (text : String)
  /-- The port has more digits than are read. -/
  | portDigits (count : Nat)
  | portRange
deriving DecidableEq, Repr

def Fault.message : Fault → String
  | .brackets => "Invalid IPv6 URL"
  | .laterVersion => "IPvFuture address is invalid"
  | .noAddress host =>
    s!"{Text.Quoted.text host} does not appear to be an IPv4 or IPv6 address"
  | .bracketedV4 => "An IPv4 address cannot be in brackets"
  | .equivalents authority =>
    s!"netloc '{authority}' contains invalid characters under NFKC normalization"
  | .port text => s!"Port could not be cast to integer value as {Text.Quoted.text text}"
  | .portDigits count => Text.tooManyDigits count
  | .portRange => "Port out of range 0-65535"

end UrlSigning.Url
