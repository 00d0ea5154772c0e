/-!
# Flags

The flags of the command line: their names, and whether they want a value. A long name may be cut
short as long as it can be told from the others.
-/

namespace UrlSigning.CommandLine

inductive Flag where
  | help
  | config
  | providers
  | key
  | method
  | expires
  | startTime
  | header
  | payloadFile
  | payloadDigest
  | streaming
  | quiet
  | jsonOutput
  | verbose
deriving DecidableEq, Repr

namespace Flag

/-- The flags, in the order in which they are declared. -/
def all : List Flag :=
  [.help, .config, .providers, .key, .method, .expires, .startTime, .header, .payloadFile,
    .payloadDigest, .streaming, .quiet, .jsonOutput, .verbose]

/-- The names of a flag: the short one, if it has one, and the long one. -/
def names : Flag → List String
  | .help => ["-h", "--help"]
  | .config => ["-c", "--config"]
  | .providers => ["-p", "--providers"]
  | .key => ["-k", "--key"]
  | .method => ["-m", "--method"]
  | .expires => ["-e", "--expires"]
  | .startTime => ["--start-time"]
  | .header => ["-H", "--header"]
  | .payloadFile => ["--payload-file"]
  | .payloadDigest => ["--payload-sha256"]
  | .streaming => ["--streaming"]
  | .quiet => ["-q", "--quiet"]
  | .jsonOutput => ["-j", "--json-output"]
  | .verbose => ["-v", "--verbose"]

/-- The flag as messages name it. -/
def shown (f : Flag) : String :=
  "/".intercalate f.names

def takesValue : Flag → Bool
  | .help | .streaming | .quiet | .verbose => false
  | _ => true

/-- The flags of which only one may be used. -/
def exclusive : List Flag :=
  [.payloadFile, .payloadDigest, .streaming]

/-- Every name with its flag, in order. -/
def named : List (String × Flag) :=
  all.flatMap fun f => f.names.map fun n => (n, f)

/-- The flag of a name. -/
def ofName? (name : String) : Option Flag :=
  named.lookup name

/-- The flag whose short name has the letter. -/
def ofLetter? (c : Char) : Option Flag :=
  ofName? (String.ofList ['-', c])

/-- The names that begin with a text. -/
def beginning (text : String) : List (String × Flag) :=
  named.filter fun n => text.toList.isPrefixOf n.1.toList

/-- The flags, one in a line, with a word for the value if they want one. -/
def overview : String :=
  "\n".intercalate (all.map fun f => "  " ++ f.shown ++ if f.takesValue then " VALUE" else "")

end Flag

end UrlSigning.CommandLine
