import UrlSigning.Text.Cut
import UrlSigning.Text.Percent

/-!
# Canonical paths

The path of a URL as a signature covers it. Two steps are chosen on their own: taking out empty
segments and the segments of points, and encoding the path once more.
-/

namespace UrlSigning.Url.Path

open Text

/-- The segments with those of points and the empty ones taken out: two points take away the segment
before them. `kept` holds the segments kept so far, the latest first. -/
def resolve (kept : List (List Char)) : List (List Char) → List (List Char)
  | [] => kept.reverse
  | segment :: rest =>
    if segment = [] ∨ segment = ['.'] then resolve kept rest
    else if segment = ['.', '.'] then resolve (kept.drop 1) rest
    else resolve (segment :: kept) rest

/-- The path without dot segments and empty segments. A slash in front is kept, and one at the end
if a segment is left. -/
def normalizeChars (cs : List Char) : List Char :=
  if cs.isEmpty then ['/']
  else
    let kept := resolve [] (cutAll '/' cs)
    (if cs.head? = some '/' then ['/'] else []) ++ joinAll '/' kept ++
      (if cs.getLast? = some '/' ∧ kept ≠ [] then ['/'] else [])

/-- `normalizeChars` on strings. -/
def normalize (path : String) : String :=
  String.ofList (normalizeChars path.toList)

/-- The path encoded once more: slashes stay, percent signs do not. -/
def encode (path : String) : String :=
  Percent.encode (Percent.safeWith ['/']) path

/-- The path that is signed. -/
def canonical (normalized encoded : Bool) (path : String) : String :=
  let path := if normalized then normalize path else path
  if encoded then encode path else path

end UrlSigning.Url.Path
