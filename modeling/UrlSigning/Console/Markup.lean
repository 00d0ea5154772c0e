import UrlSigning.Console.Style

/-!
# Markup

Texts for the console may hold tags in square brackets, which style what they enclose and are not
shown themselves. A tag with a slash in front ends a stretch that was begun before: the latest one,
or the latest one of its name. An odd number of backslashes in front of a bracket takes its meaning
away. What is left of a text on a console without colours is its characters without the tags.
-/

namespace UrlSigning.Console.Markup

/-- Why a text cannot be shown. -/
inductive Fault where
  /-- A tag ends a stretch that was not begun. -/
  | unmatched (tag : String) (position : Nat)
  /-- A tag ends the latest stretch, and there is none. -/
  | nothingOpen (position : Nat)
deriving DecidableEq, Repr

def Fault.message : Fault → String
  | .unmatched tag position =>
    s!"closing tag '{tag}' at position {position} doesn't match any open tag"
  | .nothingOpen position => s!"closing tag '[/]' at position {position} has nothing to close"

/-- A piece of a text: characters, or a tag with what stands between its brackets. -/
inductive Piece where
  | text (cs : List Char)
  | tag (position : Nat) (inside : List Char)
deriving DecidableEq, Repr

/-- Whether a tag can begin with the character. -/
def beginsTag (c : Char) : Bool :=
  ('a' ≤ c && c ≤ 'z') || c == '#' || c == '/' || c == '@'

/-- Brackets with a tag between them, and the backslashes in front of them. -/
structure Bracketed where
  slashes : Nat
  inside : List Char
deriving DecidableEq, Repr

/-- How many characters the backslashes and the brackets with the tag take up, but one. -/
def Bracketed.extra (b : Bracketed) : Nat :=
  b.slashes + b.inside.length + 1

/-- The brackets at the head of a text. There is no other bracket between them. -/
def bracketed? (cs : List Char) : Option Bracketed :=
  let slashes := (cs.takeWhile (· == '\\')).length
  match cs.drop slashes with
  | '[' :: c :: rest =>
    let isInner (d : Char) : Bool := d != '[' && d != ']'
    match rest.dropWhile isInner with
    | ']' :: _ => if beginsTag c then some ⟨slashes, c :: rest.takeWhile isInner⟩ else none
    | _ => none
  | _ => none

/-- Characters that were collected back to front, if there are any. -/
def collected (plain : List Char) : List Piece :=
  if plain.isEmpty then [] else [.text plain.reverse]

/-- The pieces of brackets: each pair of backslashes is one, and one that is left over takes away
the meaning of the brackets. -/
def Bracketed.pieces (b : Bracketed) (position : Nat) : List Piece :=
  let half := b.slashes / 2
  let slashes := collected (List.replicate half '\\')
  slashes ++
    [if b.slashes % 2 = 1 then .text ('[' :: b.inside ++ [']'])
      else .tag (position + 2 * half) b.inside]

/-- The pieces of the text from a position on, after characters that were collected. -/
def piecesFrom (position : Nat) (plain : List Char) : List Char → List Piece
  | [] => collected plain
  | c :: rest =>
    match bracketed? (c :: rest) with
    | none => piecesFrom (position + 1) (c :: plain) rest
    | some b =>
      collected plain ++ b.pieces position ++
        piecesFrom (position + b.extra + 1) [] (rest.drop b.extra)
termination_by cs => cs.length
decreasing_by all_goals simp only [List.length_drop, List.length_cons]; omega

/-- The pieces of a text. -/
def pieces (cs : List Char) : List Piece :=
  piecesFrom 0 [] cs

/-- Whether a console swallows the character. -/
def isSwallowed (c : Char) : Bool :=
  ['\x07', '\x08', '\x0b', '\x0c', '\r'].contains c

/-- Characters as they are shown: a backslash in front of a bracket is left out. -/
def unescape : List Char → List Char
  | [] => []
  | '\\' :: '[' :: rest => '[' :: unescape rest
  | c :: rest => c :: unescape rest

/-- The names of the stretches that are open, the latest first. -/
abbrev Open := List String

/-- The stretches that are open after a tag. -/
def afterTag (stretches : Open) (position : Nat) (inside : List Char) : Except Fault Open :=
  let name := inside.takeWhile (· != '=')
  match name with
  | '/' :: ending =>
    let ending := Text.trim (String.ofList ending)
    if ending.isEmpty then
      match stretches with
      | [] => .error (.nothingOpen position)
      | _ :: rest => .ok rest
    else if stretches.contains (Style.canonicalName ending) then
      .ok (stretches.erase (Style.canonicalName ending))
    else .error (.unmatched (String.ofList ('[' :: inside ++ [']'])) position)
  | _ => .ok (Style.canonicalName (String.ofList name) :: stretches)

/-- The characters that the pieces show. -/
def showFrom (stretches : Open) : List Piece → Except Fault (List Char)
  | [] => .ok []
  | .text cs :: rest => do
    return (unescape cs).filter (!isSwallowed ·) ++ (← showFrom stretches rest)
  | .tag position inside :: rest => do
    showFrom (← afterTag stretches position inside) rest

/-- The characters that a text shows. -/
def shown (cs : List Char) : Except Fault (List Char) :=
  showFrom [] (pieces cs)

end UrlSigning.Console.Markup
