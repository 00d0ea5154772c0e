import UrlSigning.Text.Cut

/-!
# Paths

A path is a root, if it has one, and the names that lead on from there. Names that are empty or a
single point lead nowhere and are dropped; two points stay, because where they lead depends on what
is there.
-/

namespace UrlSigning.Files

structure Path where
  /-- Nothing, one slash, or two. -/
  root : String
  names : List String
deriving DecidableEq, Repr

namespace Path

/-- The root of a path's text. More slashes than two are one. -/
def rootOf (cs : List Char) : String :=
  match (cs.takeWhile (· == '/')).length with
  | 0 => ""
  | 2 => "//"
  | _ => "/"

/-- The names in a path's text, with the single points among them. -/
def namesOf (cs : List Char) : List String :=
  ((Text.cutAll '/' cs).filter (!·.isEmpty)).map String.ofList

/-- Reads a path. -/
def ofText (s : String) : Path :=
  ⟨rootOf s.toList, (namesOf s.toList).filter (· != ".")⟩

/-- The text of a path; a path that leads nowhere is a point. -/
def text (p : Path) : String :=
  let inner := "/".intercalate p.names
  if p.root.isEmpty && p.names.isEmpty then "." else p.root ++ inner

/-- The path without its last name. -/
def parent (p : Path) : Path :=
  { p with names := p.names.dropLast }

/-- The steps that a path takes, first to the root. -/
def steps (p : Path) : List String :=
  if p.root.isEmpty then p.names else "/" :: p.names

end Path

end UrlSigning.Files
