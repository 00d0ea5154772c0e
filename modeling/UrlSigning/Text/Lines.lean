/-!
# Line ends

A line ends with a line feed, a carriage return, or the two together. Reading a text takes each of
the three for one line feed.
-/

namespace UrlSigning.Text

/-- The text with a line feed for every line end. -/
def unifyLineEnds : List Char → List Char
  | [] => []
  | '\r' :: '\n' :: rest => '\n' :: unifyLineEnds rest
  | '\r' :: rest => '\n' :: unifyLineEnds rest
  | c :: rest => c :: unifyLineEnds rest

/-- No carriage return is left. -/
theorem not_mem_unifyLineEnds (cs : List Char) : '\r' ∉ unifyLineEnds cs := by
  induction cs using unifyLineEnds.induct with
  | case1 => simp [unifyLineEnds]
  | case2 rest ih => simpa [unifyLineEnds] using ih
  | case3 rest h ih =>
    cases rest with
    | nil => simp [unifyLineEnds]
    | cons c r =>
      by_cases hc : c = '\n'
      · exact absurd (by rw [hc]) (h r)
      · simpa [unifyLineEnds, hc] using ih
  | case4 c rest h h' ih => simpa [unifyLineEnds, Ne.symm h'] using ih

/-- A text without carriage returns stays as it is. -/
theorem unifyLineEnds_of_not_mem {cs : List Char} (h : '\r' ∉ cs) : unifyLineEnds cs = cs := by
  induction cs with
  | nil => rfl
  | cons c cs ih =>
    rw [List.mem_cons, not_or] at h
    rw [unifyLineEnds, ih h.2]
    · rintro rest rfl
      exact absurd rfl h.1
    · rintro rfl
      exact h.1 rfl

end UrlSigning.Text
