import UrlSigning.Text.Cut
import UrlSigning.Text.Hex

/-!
# Network addresses

The texts that spell an address of the fourth or the sixth version of the internet protocol. An
address of the sixth version is eight groups of hexadecimal digits, where one run of zero groups may
be left out, the last two groups may be written as an address of the fourth version, and a zone may
follow a percent sign.
-/

namespace UrlSigning.Url.Address

open Text

/-- Whether the text is a number below 256 without zeros in front. -/
def isOctet (cs : List Char) : Bool :=
  !cs.isEmpty && cs.length ≤ 3 && cs.all Char.isDigit && (cs.length == 1 || cs.head? != some '0') &&
    cs.foldl (fun n c => 10 * n + (c.toNat - '0'.toNat)) 0 ≤ 255

/-- Whether the text is four octets with points between them. -/
def isV4 (cs : List Char) : Bool :=
  let parts := cutAll '.' cs
  parts.length == 4 && parts.all isOctet

/-- Whether the text is one to four hexadecimal digits. -/
def isGroup (cs : List Char) : Bool :=
  !cs.isEmpty && cs.length ≤ 4 && cs.all fun c => (Hex.value? c).isSome

/-- The groups of an address, one written in the older form being two groups; nothing if that form
is wrong. -/
def groups? (cs : List Char) : Option (List (List Char)) :=
  let parts := cutAll ':' cs
  let last := parts.getLastD []
  if parts.length < 3 then none
  else if last.contains '.' then
    if isV4 last then some (parts.dropLast ++ [['0'], ['0']]) else none
  else some parts

/-- The empty groups that are neither the first nor the last, by their places. -/
def innerGaps (groups : List (List Char)) : List Nat :=
  (List.range groups.length).filter fun i =>
    i != 0 && i + 1 != groups.length && (groups.getD i []).isEmpty

/-- Whether the groups spell an address. A gap at one of the ends has to have an empty group beside
it, and it has to leave out at least one group. -/
def isGroups (groups : List (List Char)) : Bool :=
  if 9 < groups.length then false
  else
    match innerGaps groups with
    | [] => groups.length == 8 && groups.all isGroup
    | [gap] =>
      let before := groups.take gap
      let after := groups.drop (gap + 1)
      let before := if before.head? = some [] then before.drop 1 else before
      let openEnd := groups.head? = some [] && !before.isEmpty
      let after' := if after.getLast? = some [] then after.dropLast else after
      let openStart := after.getLast? = some [] && !after'.isEmpty
      !openEnd && !openStart && before.length + after'.length < 8 && before.all isGroup &&
        after'.all isGroup
    | _ => false

/-- Whether the text is an address of the sixth version, without a zone. -/
def isV6Bare (cs : List Char) : Bool :=
  match groups? cs with
  | some groups => isGroups groups
  | none => false

/-- Whether the text is an address of the sixth version; a zone is any text without a percent
sign. -/
def isV6 (cs : List Char) : Bool :=
  match cutFirst? '%' cs with
  | none => isV6Bare cs
  | some (address, zone) => isV6Bare address && !zone.isEmpty && !zone.contains '%'

/-- Whether the text is an address whose zone, if there is one, is written with the characters that
need no escape. -/
def isV6WithPlainZone (cs : List Char) : Bool :=
  let isPlain := fun c : Char =>
    c.isAlphanum || c == '.' || c == '_' || c == '!' || c == '-' || c == '~'
  match cutFirst? '%' cs with
  | none => isV6Bare cs
  | some (address, zone) => isV6Bare address && !zone.isEmpty && zone.all isPlain

end UrlSigning.Url.Address
