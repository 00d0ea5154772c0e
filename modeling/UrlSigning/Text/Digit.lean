import UrlSigning.Text.Blank

/-!
# Decimal digits and whole numbers

The digits of every script, and the reading of a whole number as people write one: blanks around
it, a sign, and single underscores between the digits.
-/

namespace UrlSigning.Text

/-- The zeros of the scripts; the nine digits after each follow it (Unicode 14). -/
def zeroCodes : List Nat :=
  [
    48, 1632, 1776, 1984, 2406, 2534, 2662, 2790, 2918, 3046, 3174, 3302, 3430, 3558, 3664, 3792,
    3872, 4160, 4240, 6112, 6160, 6470, 6608, 6784, 6800, 6992, 7088, 7232, 7248, 42528, 43216,
    43264, 43472, 43504, 43600, 44016, 65296, 66720, 68912, 69734, 69872, 69942, 70096, 70384,
    70736, 70864, 71248, 71360, 71472, 71904, 72016, 72784, 73040, 73120, 92768, 92864, 93008,
    120782, 120792, 120802, 120812, 120822, 123200, 123632, 125264, 130032]

/-- The value of a decimal digit of any script. -/
def digitValue? (c : Char) : Option Nat :=
  (zeroCodes.find? fun z => z ≤ c.toNat && c.toNat ≤ z + 9).map (c.toNat - ·)

/-- The most digits of a whole number that is read or written. -/
def maxDigits : Nat := 4300

/-- What is said of a number with more digits than are read. -/
def tooManyDigits (count : Nat) : String :=
  s!"Exceeds the limit ({maxDigits} digits) for integer string conversion: " ++
    s!"value has {count} digits; use sys.set_int_max_str_digits() to increase the limit"

/-- The digits of a whole number: how many there are, and their value. -/
structure DigitRun where
  count : Nat
  value : Nat
deriving DecidableEq, Repr

/-- The run with one more digit. -/
def DigitRun.push (run : DigitRun) (d : Nat) : DigitRun :=
  ⟨run.count + 1, 10 * run.value + d⟩

/-- Reads on after a digit: digits, each of which may have one underscore before it. -/
def readDigits (run : DigitRun) : List Char → DigitRun × List Char
  | [] => (run, [])
  | '_' :: c :: rest =>
    match digitValue? c with
    | some d => readDigits (run.push d) rest
    | none => (run, '_' :: c :: rest)
  | c :: rest =>
    match digitValue? c with
    | some d => readDigits (run.push d) rest
    | none => (run, c :: rest)

/-- The blanks that may stand around a whole number: those outside ASCII, and in ASCII the space and
the control characters that move to another place. -/
def isNumberBlank (c : Char) : Bool :=
  if c.toNat < 128 then c == ' ' || (9 ≤ c.toNat && c.toNat ≤ 13) else isBlank c

/-- Reads a whole number without its sign, up to the blanks at its end. -/
def readUnsigned? : List Char → Option Nat
  | [] => none
  | c :: rest => do
    let d ← digitValue? c
    let (run, after) := readDigits ⟨1, d⟩ rest
    if after.all isNumberBlank && run.count ≤ maxDigits then some run.value else none

/-- Reads a whole number. -/
def readInteger? (s : String) : Option Int :=
  let cs := s.toList
  match cs.dropWhile isNumberBlank with
  | '-' :: rest => (readUnsigned? rest).map fun n => -(n : Int)
  | '+' :: rest => (readUnsigned? rest).map Int.ofNat
  | rest => (readUnsigned? rest).map Int.ofNat

end UrlSigning.Text
