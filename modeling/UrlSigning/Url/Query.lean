import UrlSigning.Entries
import UrlSigning.Text.Cut
import UrlSigning.Text.Percent

/-!
# Queries

The query of a URL in two readings: as it stands, a list of pairs that is only sorted and written
again, and as the names and values that its escapes stand for.
-/

namespace UrlSigning.Url.Query

open Text

/-- The pairs of a query as they stand; a part without an equals sign has an empty value. -/
def rawPairs (query : String) : List (String × String) :=
  (cutAll '&' query.toList).map fun part =>
    let (name, value) := cutFirst '=' part
    (String.ofList name, String.ofList value)

/-- Pairs written as a query. -/
def writeRaw (pairs : List (String × String)) : String :=
  "&".intercalate (pairs.map fun (name, value) => name ++ "=" ++ value)

/-- Whether a pair comes before another or is the same: by name, then by value. -/
def pairLe (a b : String × String) : Bool :=
  a.1 < b.1 || (a.1 == b.1 && a.2 ≤ b.2)

/-- The query with its pairs sorted. -/
def sorted (query : String) : String :=
  if query.isEmpty then "" else writeRaw ((rawPairs query).mergeSort pairLe)

/-- The text that a name or a value in a query stands for: a plus sign is a space. -/
def decodeText (cs : List Char) : String :=
  String.ofList (Percent.decodeChars (cs.map fun c => if c = '+' then ' ' else c))

/-- The names and values of a query, in order. Empty parts are passed over. -/
def read (query : String) : List (String × String) :=
  ((cutAll '&' query.toList).filter (!·.isEmpty)).map fun part =>
    let (name, value) := cutFirst '=' part
    (decodeText name, decodeText value)

/-- The first value of each name, in the order of the names. -/
def firstValues (pairs : List (String × String)) : Entries String String :=
  pairs.foldl (fun es p => if es.has p.1 then es else es.put p.1 p.2) []

/-- A name or a value, encoded for a query. -/
def encodeText (s : String) : String :=
  Percent.encode Percent.isUnreserved s

/-- Names and values written as a query. -/
def write (pairs : List (String × String)) : String :=
  writeRaw (pairs.map fun (name, value) => (encodeText name, encodeText value))

end UrlSigning.Url.Query
