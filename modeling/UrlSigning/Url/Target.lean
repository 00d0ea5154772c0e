import UrlSigning.Text.Digit
import UrlSigning.Text.Percent
import UrlSigning.Text.Quoted
import UrlSigning.Url.HostName
import UrlSigning.Url.Parts

/-!
# Targets

The target of a request: what a client makes of a URL before it sends a request there. The parts of
the URL are found, checked and written in one way: characters that a part cannot hold are encoded,
the scheme and the host are in lower case, the port of the scheme is left out, and the segments of
points are taken out of the path. Escapes that are there stay as they are, and so do all characters
that a part can hold.
-/

namespace UrlSigning.Url

open Text

structure Target where
  scheme : String
  /-- What is said of the user in front of the host. -/
  user : String
  host : String
  port : Option Int
  path : String
  query : Option String
  fragment : Option String
deriving DecidableEq, Repr

namespace Target

/-- Why a URL is no target. -/
inductive Fault where
  | tooLong
  | control (c : Char) (place : Nat)
  | v4 (host : String)
  | v6 (host : String)
  | hostName (host : String)
  | port (text : String)
  /-- There is a host, but no slash between it and the path. -/
  | noSlash
  /-- There is no host, and the path begins with two slashes. -/
  | twoSlashes
  /-- There is no scheme, and the path begins with a colon. -/
  | colon
deriving DecidableEq, Repr

def Fault.message : Fault → String
  | .tooLong => "URL too long"
  | .control c place =>
    "Invalid non-printable ASCII character in URL, " ++
      s!"{Quoted.text c.toString} at position {place}."
  | .v4 host => s!"Invalid IPv4 address: {Quoted.text host}"
  | .v6 host => s!"Invalid IPv6 address: {Quoted.text host}"
  | .hostName host => s!"Invalid IDNA hostname: {Quoted.text host}"
  | .port text => s!"Invalid port: {Quoted.text text}"
  | .noSlash => "For absolute URLs, path must be empty or begin with '/'"
  | .twoSlashes => "Relative URLs cannot have a path starting with '//'"
  | .colon => "Relative URLs cannot have a path starting with ':'"

/-! ### Cutting -/

/-- The parts of a URL as they are written. -/
structure Pieces where
  scheme : List Char
  authority : List Char
  path : List Char
  query : Option (List Char)
  fragment : Option (List Char)
deriving DecidableEq, Repr

/-- The scheme in front of a colon, and what follows it. A colon alone is taken away. -/
def takeScheme (cs : List Char) : List Char × List Char :=
  let scheme := cs.takeWhile isSchemeChar
  match cs.dropWhile isSchemeChar with
  | ':' :: rest => if (scheme.head?.map Char.isAlpha).getD true then (scheme, rest) else ([], cs)
  | _ => ([], cs)

/-- The text in front of a separator, and what follows it, if there is one. -/
def cutOptional (sep : Char) (cs : List Char) : List Char × Option (List Char) :=
  match cutFirst? sep cs with
  | some (a, b) => (a, some b)
  | none => (cs, none)

/-- Cuts a URL into its parts. -/
def cut (cs : List Char) : Pieces :=
  let (scheme, rest) := takeScheme cs
  let (authority, rest) := cutAuthority rest
  let (rest, fragment) := cutOptional '#' rest
  let (path, query) := cutOptional '?' rest
  ⟨scheme, authority, path, query, fragment⟩

/-- The parts of an authority as they are written. -/
structure Place where
  user : List Char
  host : List Char
  port : List Char
deriving DecidableEq, Repr

/-- Cuts an authority. The user ends at the last at sign; a host may stand in brackets, and if not
it ends at a colon. -/
def cutPlace (authority : List Char) : Place :=
  let rest := afterLast '@' authority
  let user := (authority.take (authority.length - rest.length)).dropLast
  let (host, after) :=
    if rest.head? == some '[' && rest.contains ']' then
      let port := afterLast ']' rest
      (rest.take (rest.length - port.length), port)
    else (rest.takeWhile (· != ':'), rest.dropWhile (· != ':'))
  ⟨user, host, if after.head? == some ':' then after.drop 1 else after⟩

/-! ### Encoding -/

/-- Whether the character can be seen and is not among those listed. -/
def isVisibleBut (excluded : List Char) (c : Char) : Bool :=
  0x20 < c.toNat && c.toNat < 0x7F && !excluded.contains c

/-- Whether a query can hold the character. -/
def isQueryChar : Char → Bool :=
  isVisibleBut ['"', '#', '<', '>']

/-- Whether a path can hold the character. -/
def isPathChar : Char → Bool :=
  isVisibleBut ['"', '#', '<', '>', '?', '`', '{', '}']

/-- Whether the character can be said of the user. -/
def isUserChar : Char → Bool :=
  isVisibleBut ['"', '#', '<', '>', '?', '`', '{', '}', '/', ';', '=', '@', '[', '\\', ']', '^',
    '|']

/-- Whether a fragment can hold the character. -/
def isFragmentChar : Char → Bool :=
  isVisibleBut ['"', '<', '>', '`']

/-- Whether a host of ASCII characters can hold the character. -/
def isHostChar : Char → Bool :=
  Percent.safeWith ['!', '$', '&', '\'', '(', ')', '*', '+', ',', ';', '=', '"', '`', '{', '}',
    '%', '|', '\\']

/-- Whether the text is four runs of digits with one character, of whatever kind, between each two
of them. -/
def isFourRuns (cs : List Char) : Bool :=
  let runs := cutAll '.' (cs.map fun c => if c.isDigit then c else '.')
  let inside := runs.foldl (fun n r => n + (r.length - 1) / 2) 0
  runs.all (!·.isEmpty) && runs.length ≤ 4 && 4 ≤ runs.length + inside

/-- The host as it is looked up. -/
def readHost (cs : List Char) : Except Fault (List Char) :=
  let text := String.ofList cs
  if cs.isEmpty then .ok []
  else if isFourRuns cs then if Address.isV4 cs then .ok cs else .error (.v4 text)
  else if cs.head? == some '[' && cs.getLast? == some ']' then
    let inner := (cs.drop 1).dropLast
    if Address.isV6 inner then .ok inner else .error (.v6 text)
  else
    let name := (lower text).toList
    if cs.all fun c => c.toNat < 128 then .ok (Percent.encodeChars isHostChar name)
    else
      match HostName.encode? name with
      | some encoded => .ok encoded
      | none => .error (.hostName text)

/-- The ports that schemes have when none is given. -/
def schemePorts : List (String × Int) :=
  [("ftp", 21), ("http", 80), ("https", 443), ("ws", 80), ("wss", 443)]

/-- The port, unless it is the one of the scheme. -/
def readPort (scheme port : List Char) : Except Fault (Option Int) :=
  let text := String.ofList port
  if port.isEmpty then .ok none
  else
    match readInteger? text with
    | none => .error (.port text)
    | some n =>
      .ok (if schemePorts.lookup (String.ofList scheme) = some n then none else some n)

/-! ### Paths -/

/-- The segments without those of points: two points take away the segment before them, but not
the start of the path. `kept` holds the segments kept so far, the latest first. -/
def settleSegments (kept : List (List Char)) : List (List Char) → List (List Char)
  | [] => kept.reverse
  | segment :: rest =>
    if segment = ['.'] then settleSegments kept rest
    else if segment = ['.', '.'] then
      settleSegments (if kept = [[]] then kept else kept.drop 1) rest
    else settleSegments (segment :: kept) rest

/-- The path without the segments of points. -/
def settle (path : List Char) : List Char :=
  joinAll '/' (settleSegments [] (cutAll '/' path))

/-- Checks how a path begins, in a URL with or without a scheme and with or without a place. -/
def checkPath (path : List Char) (hasScheme hasPlace : Bool) : Except Fault Unit :=
  if hasPlace then
    if path.isEmpty || path.head? == some '/' then .ok () else .error .noSlash
  else if hasScheme then .ok ()
  else if path.take 2 == ['/', '/'] then .error .twoSlashes
  else if path.head? == some ':' then .error .colon
  else .ok ()

/-! ### Both ways -/

/-- The most characters of a URL. -/
def longest : Nat := 65536

/-- Checks the characters of a URL: there must be no control character of ASCII. -/
def checkCharacters (cs : List Char) : Except Fault Unit :=
  if longest < cs.length then .error .tooLong
  else
    match cs.findIdx? fun c => c.toNat < 0x20 || c.toNat = 0x7F with
    | some place => .error (.control (cs.getD place ' ') place)
    | none => .ok ()

/-- The target of the parts of a URL. -/
def ofPieces (p : Pieces) : Except Fault Target := do
  let place := cutPlace p.authority
  let user := Percent.encodeChars isUserChar place.user
  let host ← readHost place.host
  let port ← readPort p.scheme place.port
  let hasScheme := !p.scheme.isEmpty
  let hasPlace := !user.isEmpty || !host.isEmpty || port.isSome
  checkPath p.path hasScheme hasPlace
  let path := if hasScheme || hasPlace then settle p.path else p.path
  return {
    scheme := String.ofList (p.scheme.map Char.toLower)
    user := String.ofList user
    host := String.ofList host
    port := port
    path := String.ofList (Percent.encodeChars isPathChar path)
    query := p.query.map fun q => String.ofList (Percent.encodeChars isQueryChar q)
    fragment := p.fragment.map fun f => String.ofList (Percent.encodeChars isFragmentChar f) }

/-- The target that a URL names. -/
def ofUrl (url : String) : Except Fault Target := do
  checkCharacters url.toList
  ofPieces (cut url.toList)

/-- The host, in brackets if it holds a colon, and the port. -/
def hostAndPort (t : Target) : String :=
  (if t.host.toList.contains ':' then "[" ++ t.host ++ "]" else t.host) ++
    ((t.port.map fun n => ":" ++ toString n).getD "")

/-- The URL of a target. -/
def text (t : Target) : String :=
  let authority := (if t.user.isEmpty then "" else t.user ++ "@") ++ t.hostAndPort
  (if t.scheme.isEmpty then "" else t.scheme ++ ":") ++
    (if authority.isEmpty then "" else "//" ++ authority) ++ t.path ++
    ((t.query.map ("?" ++ ·)).getD "") ++ ((t.fragment.map ("#" ++ ·)).getD "")

end Target

end UrlSigning.Url
