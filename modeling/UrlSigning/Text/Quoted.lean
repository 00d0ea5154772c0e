import UrlSigning.Text.Hex
import UrlSigning.Text.Printable

/-!
# Quoted text

A text or a sequence of bytes between quotes, as messages show them: single quotes unless the
content holds single quotes and no double ones, a backslash before the quote and before itself, and
an escape for what cannot be shown.
-/

namespace UrlSigning.Text.Quoted

/-- The quote that fits the content. -/
def quoteFor (cs : List Char) : Char :=
  if cs.contains '\'' && !cs.contains '"' then '"' else '\''

/-- The escape of a character that cannot be shown, by its size. -/
def escape (n : Nat) : List Char :=
  if n < 0x100 then '\\' :: 'x' :: Hex.padded .lower 2 n
  else if n < 0x10000 then '\\' :: 'u' :: Hex.padded .lower 4 n
  else '\\' :: 'U' :: Hex.padded .lower 8 n

/-- One character between quotes; `plain` tells the characters that stand for themselves. -/
def encodeChar (plain : Char → Bool) (quote : Char) (c : Char) : List Char :=
  if c == quote || c == '\\' then ['\\', c]
  else if c == '\t' then ['\\', 't']
  else if c == '\n' then ['\\', 'n']
  else if c == '\r' then ['\\', 'r']
  else if plain c then [c]
  else escape c.toNat

/-- The content between its quotes. -/
def encode (plain : Char → Bool) (cs : List Char) : List Char :=
  let quote := quoteFor cs
  quote :: cs.flatMap (encodeChar plain quote) ++ [quote]

/-- A string between quotes. -/
def text (s : String) : String :=
  String.ofList (encode isPrintable s.toList)

/-- Bytes between quotes after a `b`, each shown as the ASCII character it stands for. -/
def bytes (bs : Bytes) : String :=
  let plain := fun c : Char => 32 ≤ c.toNat && c.toNat < 127
  String.ofList ('b' :: encode plain (bs.map fun b => Char.ofNat b.toNat))

end UrlSigning.Text.Quoted
