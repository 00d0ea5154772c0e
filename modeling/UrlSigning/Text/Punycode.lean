/-!
# Punycode

A text as ASCII characters alone: first the ASCII characters that it has, in order, and then, after
a hyphen, where the other ones go. These are taken by size, and for each of their places the steps
since the last one are counted and written as a number whose digits are worth less or more as the
last numbers were small or large.
-/

namespace UrlSigning.Text.Punycode

/-- The character of a digit below thirty-six: a letter, or after the letters a decimal digit. -/
def digit (d : Nat) : Char :=
  if d < 26 then Char.ofNat ('a'.toNat + d) else Char.ofNat ('0'.toNat + d - 26)

/-- The bound below which the digit at place `k` is the last one. -/
def threshold (bias k : Nat) : Nat :=
  max 1 (min 26 (k - bias))

theorem threshold_bounds (bias k : Nat) : 1 ≤ threshold bias k ∧ threshold bias k ≤ 26 := by
  unfold threshold
  omega

/-- The digits of a number from place `k` on, the least significant first. -/
def digits (bias k n : Nat) : List Char :=
  let t := threshold bias k
  if n < t then [digit n]
  else digit (t + (n - t) % (36 - t)) :: digits bias (k + 36) ((n - t) / (36 - t))
termination_by n
decreasing_by
  have := threshold_bounds bias k
  have := Nat.div_le_self (n - threshold bias k) (36 - threshold bias k)
  omega

/-- Divides a number of steps until it is small, and counts how often. -/
def scaleDown (steps : Nat) : Nat × Nat :=
  if 455 < steps then
    let (least, count) := scaleDown (steps / 35)
    (least, count + 1)
  else (steps, 0)

/-- The bias after a number of steps, when so many characters have been placed. -/
def nextBias (steps placed : Nat) (first : Bool) : Nat :=
  let scaled := if first then steps / 700 else steps / 2
  let (least, count) := scaleDown (scaled + scaled / placed)
  36 * count + 36 * least / (least + 38)

/-- What has been written, and how far the writer has come. -/
structure State where
  written : List Char := []
  /-- The steps since the last character that was placed. -/
  steps : Nat := 0
  bias : Nat := 72
  placed : Nat
  /-- Whether no character has been placed yet. -/
  first : Bool := true

/-- Passes a character of the text, while characters of code point `code` are placed. -/
def pass (code : Nat) (s : State) (c : Char) : State :=
  if c.toNat < code then { s with steps := s.steps + 1 }
  else if c.toNat = code then
    { written := s.written ++ digits s.bias 36 s.steps
      steps := 0
      bias := nextBias s.steps (s.placed + 1) s.first
      placed := s.placed + 1
      first := false }
  else s

/-- Places the characters of the code points, which are in order and at least `least`. -/
def place (cs : List Char) (least : Nat) (s : State) : List Nat → State
  | [] => s
  | code :: rest =>
    let reached := { s with steps := s.steps + (code - least) * (s.placed + 1) }
    let after := cs.foldl (pass code) reached
    place cs (code + 1) { after with steps := after.steps + 1 } rest

/-- The text in ASCII characters. -/
def encode (cs : List Char) : List Char :=
  let basic := cs.filter fun c => c.toNat < 128
  let codes := (((cs.map Char.toNat).filter (128 ≤ ·)).mergeSort).eraseDups
  let extension := (place cs 128 { placed := basic.length } codes).written
  basic ++ (if basic.isEmpty then [] else ['-']) ++ extension

end UrlSigning.Text.Punycode
