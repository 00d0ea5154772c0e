/-!
# Cutting text at a separator

A text is cut at the first separator, at the last one, or at each of them. Nothing is lost: the
parts with the separator between them are the text again.
-/

namespace UrlSigning.Text

/-- The text before and after the first separator, if there is one. -/
def cutFirst? (sep : Char) : List Char → Option (List Char × List Char)
  | [] => none
  | c :: rest =>
    if c = sep then some ([], rest)
    else (cutFirst? sep rest).map fun (a, b) => (c :: a, b)

/-- The text before and after the first separator; all of it and nothing when there is none. -/
def cutFirst (sep : Char) (cs : List Char) : List Char × List Char :=
  (cutFirst? sep cs).getD (cs, [])

/-- The text after the last separator; all of it when there is none. -/
def afterLast (sep : Char) (cs : List Char) : List Char :=
  (cs.reverse.takeWhile (· != sep)).reverse

/-- The parts between the separators. -/
def cutAll (sep : Char) : List Char → List (List Char)
  | [] => [[]]
  | c :: rest =>
    if c = sep then [] :: cutAll sep rest
    else
      match cutAll sep rest with
      | [] => [[c]]
      | part :: parts => (c :: part) :: parts

/-- The parts with the separator between them. -/
def joinAll (sep : Char) (parts : List (List Char)) : List Char :=
  List.intercalate [sep] parts

theorem cutFirst?_eq_some {sep : Char} {cs a b : List Char} (h : cutFirst? sep cs = some (a, b)) :
    cs = a ++ sep :: b ∧ sep ∉ a := by
  induction cs generalizing a with
  | nil => simp [cutFirst?] at h
  | cons c rest ih =>
    by_cases hc : c = sep
    · simp only [cutFirst?, hc, if_true, Option.some.injEq, Prod.mk.injEq] at h
      simp [← h.1, ← h.2, hc]
    · simp only [cutFirst?, hc, if_false, Option.map_eq_some_iff, Prod.mk.injEq] at h
      obtain ⟨⟨a', b'⟩, h', rfl, rfl⟩ := h
      obtain ⟨rfl, hn⟩ := ih h'
      simp [hn, Ne.symm hc]

theorem cutAll_ne_nil (sep : Char) (cs : List Char) : cutAll sep cs ≠ [] := by
  cases cs with
  | nil => simp [cutAll]
  | cons c rest =>
    by_cases h : c = sep
    · simp [cutAll, h]
    · simp only [cutAll, h, if_false]
      split <;> simp

theorem joinAll_cutAll (sep : Char) (cs : List Char) : joinAll sep (cutAll sep cs) = cs := by
  induction cs with
  | nil => rfl
  | cons c rest ih =>
    by_cases h : c = sep
    · subst h
      cases e : cutAll c rest with
      | nil => exact absurd e (cutAll_ne_nil _ _)
      | cons p ps =>
        rw [e] at ih
        simp only [cutAll, if_true, e]
        simpa [joinAll, List.intercalate, List.intersperse] using ih
    · simp only [cutAll, h, if_false]
      cases e : cutAll sep rest with
      | nil => exact absurd e (cutAll_ne_nil _ _)
      | cons p ps =>
        rw [e] at ih
        cases ps <;> simp_all [joinAll, List.intercalate, List.intersperse]

end UrlSigning.Text
