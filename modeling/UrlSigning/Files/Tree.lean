import UrlSigning.Entries
import UrlSigning.Files.Path
import UrlSigning.Text.Quoted
import UrlSigning.Text.Utf8

/-!
# File trees

The files and directories that a run finds and leaves. A path is followed step by step from the
working directory; each step has to start from a directory. What cannot be done is reported with its
cause and with the path as it was given.
-/

namespace UrlSigning.Files

inductive Node where
  | directory
  | file (content : Bytes)
deriving DecidableEq, Repr

/-- The place that steps lead to. Steps out of the working directory are kept in front. -/
abbrev Place := List String

/-- The nodes of a tree by their places. -/
structure Tree where
  nodes : Entries Place Node := []
deriving DecidableEq, Repr

/-- Why a path cannot be used. -/
inductive Cause where
  | missing
  | present
  | notDirectory
  | isDirectory
  | nameTooLong
  /-- The path holds a null character. -/
  | nullCharacter
deriving DecidableEq, Repr

/-- The number of a cause, and its text. -/
def Cause.describe : Cause → String
  | .missing => "[Errno 2] No such file or directory"
  | .present => "[Errno 17] File exists"
  | .notDirectory => "[Errno 20] Not a directory"
  | .isDirectory => "[Errno 21] Is a directory"
  | .nameTooLong => "[Errno 36] File name too long"
  | .nullCharacter => "embedded null byte"

/-- A path that cannot be used, as it was given. -/
structure Fault where
  cause : Cause
  path : String
deriving DecidableEq, Repr

def Fault.message (f : Fault) : String :=
  match f.cause with
  | .nullCharacter => f.cause.describe
  | c => s!"{c.describe}: {Text.Quoted.text f.path}"

/-- The most bytes of a name. -/
def longestName : Nat := 255

/-- The most bytes of a path. -/
def longestPath : Nat := 4095

/-- What stands at a place. -/
inductive Spot where
  | directory
  | file (content : Bytes)
  | vacant
deriving DecidableEq, Repr

namespace Tree

/-- The step to the directory above. -/
def upward : String := ".."

/-- The place of the root. -/
def rootPlace : Place := ["/"]

/-- What stands at a place. The working directory, those above it, and the root are there. -/
def spot (t : Tree) (place : Place) : Spot :=
  if place.all (· == upward) || place == rootPlace then .directory
  else
    match t.nodes.get? place with
    | some .directory => .directory
    | some (.file content) => .file content
    | none => .vacant

/-- The directory above a place. -/
def above (place : Place) : Place :=
  if place == rootPlace then place
  else if place.all (· == upward) then place ++ [upward]
  else place.dropLast

/-- The place to which a name leads from a directory. -/
def next (place : Place) (name : String) : Place :=
  if name == "." then place
  else if name == upward then above place
  else if name == "/" then rootPlace
  else place ++ [name]

/-- Follows steps from a place. -/
def follow (t : Tree) (place : Place) : List String → Except Cause Place
  | [] => .ok place
  | name :: rest =>
    match t.spot place with
    | .vacant => .error .missing
    | .file _ => .error .notDirectory
    | .directory =>
      if longestName < (Text.Utf8.ofString name).length then .error .nameTooLong
      else follow t (next place name) rest

/-- Whether a path's text can name anything at all. -/
def checkText (s : String) : Except Cause Unit :=
  if s.toList.contains '\x00' then .error .nullCharacter
  else if longestPath < (Text.Utf8.ofString s).length then .error .nameTooLong
  else .ok ()

/-- The place to which a path leads. -/
def locate (t : Tree) (p : Path) : Except Cause Place := do
  checkText p.text
  t.follow [] p.steps

/-- Whether something stands at the path. A path that leads through what is no directory, or
that can name nothing, leads to nothing; one that is too long is a fault. -/
def has (t : Tree) (p : Path) : Except Fault Bool :=
  match t.locate p with
  | .ok place => .ok (t.spot place != .vacant)
  | .error .nameTooLong => .error ⟨.nameTooLong, p.text⟩
  | .error _ => .ok false

/-- The content of the file at the path. -/
def read (t : Tree) (p : Path) : Except Fault Bytes :=
  match t.locate p with
  | .error c => .error ⟨c, p.text⟩
  | .ok place =>
    match t.spot place with
    | .file content => .ok content
    | .directory => .error ⟨.isDirectory, p.text⟩
    | .vacant => .error ⟨.missing, p.text⟩

/-- Makes a directory at the path, unless there is one. -/
def makeDirectory (t : Tree) (p : Path) : Except Fault Tree :=
  match t.locate p with
  | .error c => .error ⟨c, p.text⟩
  | .ok place =>
    match t.spot place with
    | .directory => .ok t
    | .file _ => .error ⟨.present, p.text⟩
    | .vacant => .ok { t with nodes := t.nodes.put place .directory }

/-- Makes a directory at the path and, where they are missing, the ones that lead to it. -/
def makeDirectories (t : Tree) (p : Path) : Except Fault Tree :=
  match t.makeDirectory p with
  | .ok made => .ok made
  | .error fault =>
    if h : fault.cause = .missing ∧ p.names ≠ [] then do
      have : p.parent.names.length < p.names.length := by
        have := List.length_pos_iff.2 h.2
        simp only [Path.parent, List.length_dropLast]
        omega
      let t ← makeDirectories t p.parent
      t.makeDirectory p
    else .error fault
termination_by p.names.length

/-- The steps that a text takes, with the single points among them. -/
def rawSteps (s : String) : List String :=
  (if Path.rootOf s.toList = "" then [] else ["/"]) ++ Path.namesOf s.toList

/-- The place at which a text names a file to be written. A slash at the end asks for a
directory. -/
def locateToWrite (t : Tree) (s : String) : Except Cause Place := do
  checkText s
  let steps := rawSteps s
  if s.toList.getLast? == some '/' then
    let place ← t.follow [] steps.dropLast
    match t.spot place with
    | .vacant => throw .missing
    | .file _ => throw .notDirectory
    | .directory => throw .isDirectory
  else
    let place ← t.follow [] steps
    if t.spot place == .directory then throw .isDirectory
    return place

/-- Writes a file, in the place of one that is there. -/
def write (t : Tree) (s : String) (content : Bytes) : Except Fault Tree :=
  match t.locateToWrite s with
  | .ok place => .ok { t with nodes := t.nodes.put place (.file content) }
  | .error c => .error ⟨c, s⟩

/-- The tree with a node at the end of the steps, and directories on the way to it. -/
def plant (t : Tree) (place : Place) (node : Node) : Tree :=
  let ways := (List.range place.length).filterMap fun n =>
    if n = 0 || t.spot (place.take n) != .vacant then none else some (place.take n, Node.directory)
  { t with nodes := Entries.put place node (Entries.putAll ways t.nodes) }

/-- The tree of nodes at the ends of paths. -/
def ofNodes (nodes : List (String × Node)) : Tree :=
  nodes.foldl (fun t n => t.plant (Path.ofText n.1).steps n.2) {}

/-- The text of a place. -/
def placeText : Place → String
  | "/" :: rest => "/" ++ "/".intercalate rest
  | place => "/".intercalate place

/-- Whether a place is in the working directory or below it. -/
def isInside (place : Place) : Bool :=
  place.head? != some upward && place.head? != some "/"

/-- The files that are in the working directory or below it, at places where an older tree has
nothing, by the texts of their places in order. -/
def newFiles (t old : Tree) : List (String × Bytes) :=
  let files := t.nodes.filterMap fun (place, node) =>
    match node with
    | .file content =>
      if isInside place && old.spot place == .vacant then some (placeText place, content) else none
    | .directory => none
  files.mergeSort fun a b => a.1 ≤ b.1

end Tree

end UrlSigning.Files
