import UrlSigning.Text.Case
import UrlSigning.Text.Cut
import UrlSigning.Url.Address
import UrlSigning.Url.Fault

/-!
# The parts of a URL

A URL is a scheme, an authority, a path, a query and a fragment, some of which may be empty. `split`
finds them, after taking away what a URL does not hold: the control characters and spaces in front,
and tabs and line ends anywhere. `join` writes them again. The authority holds the host, perhaps in
brackets, the port, and in front of them what is said of the user.
-/

namespace UrlSigning.Url

open Text

structure Parts where
  scheme : String
  authority : String
  path : String
  query : String
  fragment : String
deriving DecidableEq, Repr

/-- Whether a URL holds the character nowhere: a tab or the end of a line. -/
def isDropped (c : Char) : Bool :=
  c == '\t' || c == '\n' || c == '\r'

/-- The URL without the characters that it does not hold. -/
def clean (cs : List Char) : List Char :=
  (cs.dropWhile fun c => c.toNat ≤ 32).filter fun c => !isDropped c

/-- Whether a scheme may hold the character. -/
def isSchemeChar (c : Char) : Bool :=
  c.isAlphanum || c == '+' || c == '-' || c == '.'

/-- The scheme, in lower case, and what follows its colon. -/
def cutScheme (cs : List Char) : List Char × List Char :=
  match cutFirst? ':' cs with
  | some (name, rest) =>
    if (name.head?.map Char.isAlpha).getD false && name.all isSchemeChar then
      (name.map Char.toLower, rest)
    else ([], cs)
  | none => ([], cs)

/-- Whether the character ends an authority. -/
def endsAuthority (c : Char) : Bool :=
  c == '/' || c == '?' || c == '#'

/-- The authority after two slashes, if there are any, and what follows it. -/
def cutAuthority : List Char → List Char × List Char
  | '/' :: '/' :: rest =>
    (rest.takeWhile fun c => !endsAuthority c, rest.dropWhile fun c => !endsAuthority c)
  | cs => ([], cs)

/-- Whether the text is an address of a later version: the letter v, hexadecimal digits, a point and
more. -/
def isLaterVersion (cs : List Char) : Bool :=
  let digits := (cs.drop 1).takeWhile fun c => (Hex.value? c).isSome
  let rest := (cs.drop 1).drop digits.length
  !digits.isEmpty && rest.head? == some '.' && 1 < rest.length

/-- Checks a host that stands in brackets. -/
def checkBracketed (host : List Char) : Except Fault Unit :=
  if host.head? = some 'v' then
    if isLaterVersion host then .ok () else .error .laterVersion
  else if Address.isV4 host then .error .bracketedV4
  else if Address.isV6 host then .ok ()
  else .error (.noAddress (String.ofList host))

/-- Checks the brackets of an authority: with none there is nothing to check, and with both of them
the host has to stand between them, followed by nothing or a port. -/
def checkBrackets (authority : List Char) : Except Fault Unit :=
  if authority.contains '[' != authority.contains ']' then .error .brackets
  else if !authority.contains '[' then .ok ()
  else
    let place := afterLast '@' authority
    match cutFirst? '[' place with
    | some (before, inside) =>
      let (host, port) := cutFirst ']' inside
      if !before.isEmpty || !(port.isEmpty || port.head? == some ':') then .error .brackets
      else checkBracketed host
    | none => checkBracketed (cutFirst ':' place).1

/-- The code points of the characters with an equivalent that holds a separator of a URL
(Unicode 14). -/
def separatorEquivalents : List Nat :=
  [8263, 8264, 8265, 8448, 8449, 8453, 8454, 10868, 65043, 65046, 65109, 65110, 65119, 65131, 65283,
    65295, 65306, 65311, 65312]

/-- Checks that no character of an authority can be taken for a separator. -/
def checkEquivalents (authority : List Char) : Except Fault Unit :=
  if authority.any fun c => separatorEquivalents.contains c.toNat then
    .error (.equivalents (String.ofList authority))
  else .ok ()

/-- The parts of a URL. -/
def split (url : String) : Except Fault Parts := do
  let (scheme, rest) := cutScheme (clean url.toList)
  let (authority, rest) := cutAuthority rest
  checkBrackets authority
  let (rest, fragment) := cutFirst '#' rest
  let (path, query) := cutFirst '?' rest
  checkEquivalents authority
  return ⟨String.ofList scheme, String.ofList authority, String.ofList path, String.ofList query,
    String.ofList fragment⟩

/-- The schemes whose URLs have two slashes even when the authority is empty. -/
def slashSchemes : List String :=
  ["ftp", "http", "gopher", "nntp", "telnet", "imap", "wais", "file", "mms", "https", "shttp",
    "snews", "prospero", "rtsp", "rtspu", "rsync", "svn", "svn+ssh", "sftp", "nfs", "git",
    "git+ssh", "ws", "wss"]

/-- The URL of the parts. -/
def join (p : Parts) : String :=
  let startsWith (s t : String) : Bool := t.toList.isPrefixOf s.toList
  let place :=
    if !p.authority.isEmpty || (slashSchemes.contains p.scheme && !startsWith p.path "//") then
      "//" ++ p.authority ++
        (if !p.path.isEmpty && !startsWith p.path "/" then "/" ++ p.path else p.path)
    else p.path
  (if p.scheme.isEmpty then "" else p.scheme ++ ":") ++ place ++
    (if p.query.isEmpty then "" else "?" ++ p.query) ++
    (if p.fragment.isEmpty then "" else "#" ++ p.fragment)

/-- The host and the port as they are written. -/
def hostAndPort (authority : String) : List Char × List Char :=
  let place := afterLast '@' authority.toList
  match cutFirst? '[' place with
  | some (_, inside) =>
    let (host, rest) := cutFirst ']' inside
    (host, (cutFirst ':' rest).2)
  | none => cutFirst ':' place

/-- The host in lower case, but for the zone of an address. -/
def Parts.host? (p : Parts) : Option String :=
  let host := (hostAndPort p.authority).1
  if host.isEmpty then none
  else
    match cutFirst? '%' host with
    | none => some (lower (String.ofList host))
    | some (name, zone) =>
      some (lower (String.ofList name) ++ "%" ++ String.ofList zone)

/-- The port, if one is given. -/
def Parts.port? (p : Parts) : Except Fault (Option Nat) :=
  let port := (hostAndPort p.authority).2
  if port.isEmpty then .ok none
  else if !port.all Char.isDigit then .error (.port (String.ofList port))
  else if maxDigits < port.length then .error (.portDigits port.length)
  else
    let n := port.foldl (fun n c => 10 * n + (c.toNat - '0'.toNat)) 0
    if 65535 < n then .error .portRange else .ok (some n)

/-- The port that a scheme has when none is given. -/
def defaultPort? : String → Option Nat
  | "http" => some 80
  | "https" => some 443
  | _ => none

/-- Whether the host is shown in brackets again: it is an address whose zone is written plainly, and
the URL holds no character that was dropped. -/
def showsBrackets (url : String) (host : String) : Bool :=
  !url.toList.any isDropped && Address.isV6WithPlainZone host.toList

/-- The host of a URL, with its port if that is not the one of the scheme. A missing host is shown
by a word only beside a port. -/
def host? (url : String) : Except Fault (Option String) := do
  let p ← split url
  let host := p.host?.map fun h => if showsBrackets url h then "[" ++ h ++ "]" else h
  match ← p.port? with
  | none => return host
  | some port =>
    if defaultPort? p.scheme = some port then return host
    else return some (host.getD "None" ++ ":" ++ toString port)

end UrlSigning.Url
