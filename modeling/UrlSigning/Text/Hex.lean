/-!
# Hexadecimal digits

Bytes as pairs of hexadecimal digits, written in lower or upper case and read in either. A reader
and a writer stand side by side: reading what was written gives the bytes back.
-/

namespace UrlSigning

/-- A sequence of bytes. -/
abbrev Bytes := List UInt8

namespace Text.Hex

/-- Which letters stand for the digits ten to fifteen. -/
inductive Case where
  | lower
  | upper
deriving DecidableEq, Repr

/-- The code point of the letter for ten. -/
def Case.ten : Case → Nat
  | .lower => 'a'.toNat
  | .upper => 'A'.toNat

/-- The digit for a number below sixteen. -/
def digit (k : Case) (n : Nat) : Char :=
  Char.ofNat (if n < 10 then '0'.toNat + n else k.ten + (n - 10))

/-- The number that a digit of either case stands for. -/
def value? (c : Char) : Option Nat :=
  if '0' ≤ c ∧ c ≤ '9' then some (c.toNat - '0'.toNat)
  else if 'a' ≤ c ∧ c ≤ 'f' then some (c.toNat - 'a'.toNat + 10)
  else if 'A' ≤ c ∧ c ≤ 'F' then some (c.toNat - 'A'.toNat + 10)
  else none

/-- The two digits of a byte. -/
def ofByte (k : Case) (b : UInt8) : List Char :=
  [digit k (b.toNat / 16), digit k (b.toNat % 16)]

/-- The digits of the bytes, two for each. -/
def encode (k : Case) (bs : Bytes) : List Char :=
  bs.flatMap (ofByte k)

/-- Reads pairs of digits; a digit that stands alone or a character that is none is refused. -/
def decode : List Char → Option Bytes
  | [] => some []
  | a :: b :: rest => do
    let high ← value? a
    let low ← value? b
    let bs ← decode rest
    return UInt8.ofNat (16 * high + low) :: bs
  | [_] => none

/-- The bytes in lower case. -/
def text (bs : Bytes) : String :=
  String.ofList (encode .lower bs)

/-- The lowest `width` digits of a number, the highest first. -/
def padded (k : Case) : Nat → Nat → List Char
  | 0, _ => []
  | width + 1, n => padded k width (n / 16) ++ [digit k (n % 16)]

/-- Reading what was written gives the bytes back. -/
theorem decode_encode (k : Case) (bs : Bytes) : decode (encode k bs) = some bs := by
  have pair : ∀ b : UInt8,
      value? (digit k (b.toNat / 16)) = some (b.toNat / 16) ∧
      value? (digit k (b.toNat % 16)) = some (b.toNat % 16) := by
    have all : ∀ k : Case, ∀ n < 16, value? (digit k n) = some n := by
      intro k; cases k <;> decide
    intro b
    have := b.toNat_lt
    exact ⟨all k _ (by omega), all k _ (by omega)⟩
  induction bs with
  | nil => rfl
  | cons b bs ih =>
    have e : encode k (b :: bs) =
        digit k (b.toNat / 16) :: digit k (b.toNat % 16) :: encode k bs := rfl
    have back : UInt8.ofNat (16 * (b.toNat / 16) + b.toNat % 16) = b := by
      rw [Nat.div_add_mod]; simp
    rw [e]
    simp only [decode, pair b, ih, Option.bind_eq_bind, Option.bind_some, back]
    rfl

end Text.Hex

end UrlSigning
