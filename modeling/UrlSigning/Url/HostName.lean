import UrlSigning.Text.Case
import UrlSigning.Text.Cut
import UrlSigning.Text.Label
import UrlSigning.Text.Punycode

/-!
# Host names

A host name outside ASCII as the name that is looked up: its labels, each of which is checked, with
points between them. A label outside ASCII is written in ASCII characters behind a mark.
-/

namespace UrlSigning.Url.HostName

open Text

/-- The points that may stand between labels. -/
def points : List Char := ['.', '\u3002', '\uff0e', '\uff61']

/-- What marks a label that is written in ASCII characters. -/
def mark : List Char := ['x', 'n', '-', '-']

/-- The most characters of a label. -/
def longestLabel : Nat := 63

/-- The most characters of a name. -/
def longestName : Nat := 253

/-- Whether a label may hold the character. -/
def mayHold (c : Char) : Bool :=
  c.isLower || c.isDigit || c == '-' || isLabelChar c

/-- Whether the characters and the hyphens of a label are where they may be. -/
def isLabel (label : List Char) : Bool :=
  !label.isEmpty && label.all mayHold && label.head? != some '-' && label.getLast? != some '-' &&
    (label.drop 2).take 2 != ['-', '-']

/-- A label in ASCII characters. -/
def encodeLabel? (label : List Char) : Option (List Char) :=
  let isAscii := label.all fun c => c.toNat < 128
  let encoded := if isAscii then label else mark ++ Punycode.encode label
  let isMarked := isAscii && mark.isPrefixOf label
  let isFine :=
    if isMarked then mark.length < label.length && label.getLast? != some '-' else isLabel label
  if isFine && encoded.length ≤ longestLabel then some encoded else none

/-- A name in ASCII characters. One point at the end is kept. -/
def encode? (name : List Char) : Option (List Char) := do
  let labels := cutAll '.' (name.map fun c => if points.contains c then '.' else c)
  let isOpen := labels.getLast? == some []
  let encoded ← (if isOpen then labels.dropLast else labels).mapM encodeLabel?
  let text := joinAll '.' (encoded ++ if isOpen then [[]] else [])
  if text.length ≤ longestName + (if isOpen then 1 else 0) then return text else none

end UrlSigning.Url.HostName
