import UrlSigning.CommandLine.Command

/-!
# The program

Where the command meets the machine: the variables of the process, the time, and the files that the
arguments name are read, the command is carried out on them, and then what it printed is printed and
the files that it left are written.
-/

namespace UrlSigning

open CommandLine Files

/-- What stands at a path. -/
def nodeAt? (path : String) : IO (Option Node) := do
  try
    let place ← IO.FS.realPath path
    if ← place.isDir then return some .directory
    return some (.file (← IO.FS.readBinFile path).toList)
  catch _ => return none

/-- The paths that lead to a path, and the path itself. -/
def leadingPaths (path : String) : List String :=
  let p := Path.ofText path
  (List.range (p.names.length + 1)).map fun n => Path.text { p with names := p.names.take n }

/-- The files that arguments name, and the directories that lead to them. -/
def snapshot (a : Arguments) : IO Tree := do
  let named := a.config :: (a.payloadFile.toList ++ a.jsonOutput.toList)
  let found ← (named.flatMap leadingPaths).filterMapM fun path => do
    return (← nodeAt? path).map fun node => (path, node)
  return Tree.ofNodes found

/-- The variables of the process, in order. -/
def environment : IO Provider.Environment := do
  let bytes ← try IO.FS.readBinFile "/proc/self/environ" catch _ => pure ByteArray.empty
  let texts := Text.cutAll '\x00' (Text.Utf8.decodeLossy bytes.toList)
  return .ofPairs (texts.filterMap fun text =>
    (Text.cutFirst? '=' text).map fun (name, value) => (String.ofList name, String.ofList value))

/-- The time, as a file that is made shows it. -/
def currentTime : IO DateTime := do
  let (_, path) ← IO.FS.createTempFile
  let modified := (← path.metadata).modified
  IO.FS.removeFile path
  let micros := modified.sec * 1000000 + (modified.nsec.toNat / 1000 : Nat)
  match DateTime.ofEpoch micros with
  | .ok now => return now
  | .error fault => throw (IO.userError fault.message)

/-- A random identifier: thirty-two hexadecimal digits in five groups. -/
def randomIdentifier : IO String := do
  let bytes := (← IO.getRandomBytes 16).toList
  let marked := bytes.mapIdx fun i b =>
    if i = 6 then b % 16 + 0x40 else if i = 8 then b % 64 + 0x80 else b
  let digits := Text.Hex.encode .lower marked
  let group (start count : Nat) : String := String.ofList ((digits.drop start).take count)
  return "-".intercalate [group 0 8, group 8 4, group 12 4, group 16 4, group 20 12]

/-- Writes what is in a tree and not in an older one. -/
def save (old new : Tree) : IO Unit :=
  new.nodes.forM fun (place, node) => do
    if old.nodes.get? place != some node then
      match node with
      | .directory => IO.FS.createDirAll (Tree.placeText place)
      | .file content => IO.FS.writeBinFile (Tree.placeText place) ⟨content.toArray⟩

end UrlSigning

open UrlSigning CommandLine in
/-- Carries out a command line. The code of the process is the one with which the command ends; a
failure that no rule foresees is told with the code one. -/
def main (words : List String) : IO UInt32 := do
  let arguments := (readArguments words).toOption.getD {}
  let old ← snapshot arguments
  let surroundings : Pipeline.Surroundings := ⟨← currentTime, ← randomIdentifier⟩
  let outcome := command surroundings (← environment) old words
  if arguments.verbose then
    for event in outcome.session.log do
      IO.eprintln s!"{event.level} {event.source.name}: {event.message}"
  IO.print (String.ofList outcome.session.printed)
  IO.eprint outcome.complaint
  save old outcome.session.tree
  match outcome.exit with
  | .code n => return n.toUInt32
  | .crashed crash =>
    IO.eprintln crash.message
    return 1
  | .refused refusal =>
    match refusal.line with
    | some line => IO.eprintln line
    | none => IO.println Flag.overview
    return refusal.code.toUInt32
