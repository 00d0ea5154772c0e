import UrlSigning.Text.Hex

/-!
# Base 64

Bytes as letters, digits, plus signs and slashes: three bytes are four characters, and equals signs
fill up the last four.
-/

namespace UrlSigning.Text.Base64

/-- The character of a digit below sixty-four. -/
def digit (n : Nat) : Char :=
  if n < 26 then Char.ofNat ('A'.toNat + n)
  else if n < 52 then Char.ofNat ('a'.toNat + n - 26)
  else if n < 62 then Char.ofNat ('0'.toNat + n - 52)
  else if n = 62 then '+'
  else '/'

/-- The first digits of a number of twenty-four bits, so many of them. -/
def digits (count n : Nat) : List Char :=
  (List.range count).map fun i => digit (n / Nat.pow 64 (3 - i) % 64)

def encode : Bytes → List Char
  | [] => []
  | [a] => digits 2 (a.toNat * 65536) ++ ['=', '=']
  | [a, b] => digits 3 (a.toNat * 65536 + b.toNat * 256) ++ ['=']
  | a :: b :: c :: rest => digits 4 (a.toNat * 65536 + b.toNat * 256 + c.toNat) ++ encode rest

end UrlSigning.Text.Base64
