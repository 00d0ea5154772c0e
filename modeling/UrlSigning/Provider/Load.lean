import UrlSigning.Files.Tree
import UrlSigning.Json.Reader
import UrlSigning.Provider.Basic
import UrlSigning.Text.Lines

/-!
# Loading providers

Providers are declared by the environment or in a configuration file. If one variable of the
environment declares a provider, all of them come from there; otherwise they come from the file. A
declaration is checked field by field, and the first fault is reported with the place that it
comes from.
-/

namespace UrlSigning.Provider

/-- The variables of a process, in order. -/
abbrev Environment := Entries String String

/-- Why providers cannot be loaded. -/
inductive LoadFault where
  /-- There is no file at the path. -/
  | noFile (path : String)
  | file (fault : Files.Fault)
  | encoding (error : Text.Utf8.DecodeError)
  | document (error : Json.ReadError)
  /-- The document is no object but a value of some kind. -/
  | notFields (kindName : String)
  /-- A provider is no object but a value of some kind. -/
  | notProvider (kindName : String)
  | missingField (name key : String)
  | style (source : String) (value : Json)
  /-- The expiry is no whole number. -/
  | expiry (source : String) (value : Json)
  | expiryRange (source : String) (seconds : Int)
  | expiryInfinite
  /-- The variable has not the four parts that declare a provider. -/
  | declaration (variableName : String)
  | missingVariable (name : String)
  | noProviders
deriving Repr

/-- The styles of addressing. -/
def styles : List String := ["path", hostStyle]

/-- The most seconds for which a URL is valid. -/
def mostSeconds : Int := 604800

/-- The file that is read when no other is named. -/
def defaultFile : String := "config.json"

namespace LoadFault

/-- Whether the fault is one of the configuration, rather than of the machinery that reads it. -/
def isConfig : LoadFault → Bool
  | .file _ | .encoding _ | .notFields _ | .notProvider _ | .expiryInfinite => false
  | .document e => e.fault.isSyntax
  | _ => true

def message : LoadFault → String
  | .noFile path => s!"Config file not found: {path}"
  | .file fault => fault.message
  | .encoding e => e.message
  | .document e =>
    if e.fault.isSyntax then s!"Invalid JSON in config file: {e.message}" else e.message
  | .notFields kindName => s!"'{kindName}' object has no attribute 'items'"
  | .notProvider kindName => s!"'{kindName}' object has no attribute 'get'"
  | .missingField name key => s!"Missing required field '{name}' for provider '{key}'"
  | .style source value =>
    s!"Invalid addressing style for {source}: {value.shown} " ++
      "(expected one of: " ++ ", ".intercalate styles ++ ")"
  | .expiry source value => s!"Invalid presign expiry for {source}: {value.shown}"
  | .expiryRange source seconds =>
    s!"Presign expiry for {source} must be between 1 and {mostSeconds} seconds, got {seconds}"
  | .expiryInfinite => "cannot convert float infinity to integer"
  | .declaration variableName =>
    s!"Invalid format for {variableName}. Expected: Name|Endpoint|Region|Style"
  | .missingVariable name => s!"Missing environment variable: {name}"
  | .noProviders =>
    "No providers configured. Set PROVIDER_* environment variables or create a config.json file " ++
      "with at least one enabled provider."

end LoadFault

/-! ### The fields of a provider -/

/-- The style, which has to be one of the two. -/
def checkStyle (source : String) (value : Json) : Except LoadFault Json :=
  match value with
  | .text s => if styles.contains s then .ok value else .error (.style source value)
  | _ => .error (.style source value)

/-- The whole number that a value stands for: a text is read, and a number loses its fraction. -/
def wholeNumber (source : String) : Json → Except LoadFault Int
  | .bool b => .ok (if b then 1 else 0)
  | .int n => .ok n
  | .real (.infinite _) => .error .expiryInfinite
  | .real x =>
    match x.truncate? with
    | some n => .ok n
    | none => .error (.expiry source (.real x))
  | .text s =>
    match Text.readInteger? s with
    | some n => .ok n
    | none => .error (.expiry source (.text s))
  | v => .error (.expiry source v)

/-- The seconds of validity, from one to a week. -/
def checkExpiry (source : String) (value : Json) : Except LoadFault Int := do
  let seconds ← wholeNumber source value
  if 1 ≤ seconds ∧ seconds ≤ mostSeconds then return seconds
  else throw (.expiryRange source seconds)

/-- The seconds of validity when none are given. -/
def defaultSeconds : Int := 3600

/-- The names of the fields that a provider must have. -/
def requiredFields : List String :=
  ["provider_name", "endpoint_url", "aws_access_key_id", "aws_secret_access_key", "region_name",
    "bucket_name"]

/-- The provider of the fields of a declaration. The style and the expiry are checked, and the two
sources say where they come from. -/
def ofFields (key : String) (fields : Json) (styleSource expirySource : String) :
    Except LoadFault Provider := do
  let field (name : String) : Json := (fields.field? name).getD .null
  let style ← checkStyle styleSource ((fields.field? "addressing_style").getD "path")
  let expires ← checkExpiry expirySource
    ((fields.field? "presign_expires_seconds").getD (.int defaultSeconds))
  return {
    key := key
    name := field "provider_name"
    endpoint := field "endpoint_url"
    access := field "aws_access_key_id"
    secret := field "aws_secret_access_key"
    region := field "region_name"
    bucket := field "bucket_name"
    style := style
    expires := expires }

/-! ### Configuration files -/

/-- The provider of an entry of a file, unless the entry is switched off. -/
def ofEntry (key : String) (entry : Json) : Except LoadFault (Option Provider) := do
  let .object fields := entry | throw (.notProvider entry.kindName)
  if !((entry.field? "enabled").getD (.bool true)).isGiven then return none
  match requiredFields.find? (!Entries.has · fields) with
  | some name => throw (.missingField name key)
  | none =>
    let source := s!"provider '{key}'"
    some <$> ofFields key entry source source

/-- The providers of a document, in the order of its entries. -/
def ofDocument (document : Json) : Except LoadFault (Entries String Provider) := do
  let .object entries := document | throw (.notFields document.kindName)
  let loaded ← entries.mapM fun e => do return (← ofEntry e.1 e.2).map fun p => (e.1, p)
  return loaded.filterMap id

/-- Reads a document from the bytes of a file. -/
def readDocument (content : Bytes) : Except LoadFault Json := do
  let cs ← (Text.Utf8.decode content).mapError .encoding
  (Json.read (String.ofList (Text.unifyLineEnds cs))).mapError .document

/-- The providers of the file at a path. -/
def loadFile (t : Files.Tree) (path : String) : Except LoadFault (Entries String Provider) := do
  let p := Files.Path.ofText path
  if !(← (t.has p).mapError .file) then throw (.noFile path)
  let content ← (t.read p).mapError .file
  ofDocument (← readDocument content)

/-! ### The environment -/

/-- What begins the name of a variable that declares a provider. -/
def declarationStart : String := "PROVIDER_"

/-- The key of the provider that a variable of this name declares. -/
def declaredKey? (name : String) : Option String :=
  let start := declarationStart.toList
  if start.isPrefixOf name.toList then some (String.ofList (name.toList.drop start.length))
  else none

/-- Whether a variable declares a provider. -/
def isDeclared (env : Environment) : Bool :=
  env.any fun v => (declaredKey? v.1).isSome

/-- The fields that are variables of their own, with the ends of these variables' names. -/
def secretFields : List (String × String) :=
  [("aws_access_key_id", "ACCESS_KEY"), ("aws_secret_access_key", "SECRET_KEY"),
    ("bucket_name", "BUCKET")]

/-- The value of a variable that must not be empty. -/
def requireVariable (env : Environment) (name : String) : Except LoadFault String :=
  match env.get? name with
  | some value => if value.isEmpty then .error (.missingVariable name) else .ok value
  | none => .error (.missingVariable name)

/-- The provider that a variable declares. -/
def ofVariable (env : Environment) (name key value : String) : Except LoadFault Provider := do
  match (Text.cutAll '|' value.toList).map String.ofList with
  | [display, endpoint, region, style] =>
    let secrets ← secretFields.mapM fun f => do
      return (f.1, Json.text (← requireVariable env s!"{key}_{f.2}"))
    let expiryName := s!"{key}_PRESIGN_EXPIRES"
    let expiry := match env.get? expiryName with
      | some s => [("presign_expires_seconds", Json.text s)]
      | none => []
    let fields : List (String × Json) :=
      [("provider_name", .text display), ("endpoint_url", .text endpoint),
        ("region_name", .text region), ("addressing_style", .text style)]
    ofFields key (.object (fields ++ secrets ++ expiry)) name expiryName
  | _ => throw (.declaration name)

/-- The providers that variables declare, in order. -/
def loadEnvironment (env : Environment) : Except LoadFault (Entries String Provider) :=
  (env.filterMap fun v => (declaredKey? v.1).map fun key => (key, v)).mapM
    fun (key, v) => do return (key, ← ofVariable env v.1 key v.2)

/-! ### Both -/

/-- The providers of the environment or else of the file; none when there is no file. The file is
not looked for when the environment declares a provider. -/
def loadSource (env : Environment) (t : Files.Tree) (path : String) :
    Except LoadFault (Entries String Provider) :=
  if isDeclared env then loadEnvironment env
  else do
    if ← (t.has (.ofText path)).mapError .file then loadFile t path
    else return []

/-- The providers of the environment or else of the file, of which there must be one. -/
def load (env : Environment) (t : Files.Tree) (path : String) :
    Except LoadFault (Entries String Provider) := do
  let providers ← loadSource env t path
  if providers.isEmpty then throw .noProviders
  return providers

end UrlSigning.Provider
