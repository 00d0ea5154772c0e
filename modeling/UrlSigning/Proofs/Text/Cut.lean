import Mathlib.Data.List.TakeWhile
import UrlSigning.Text.Cut

/-!
# Cutting what was put together

A text that was put together with a separator is cut into the parts again, as long as they do not
hold the separator themselves.
-/

namespace UrlSigning.Text

variable {sep : Char}

/-! ## The first separator -/

theorem cutFirst?_append {a : List Char} (h : sep ∉ a) (b : List Char) :
    cutFirst? sep (a ++ sep :: b) = some (a, b) := by
  induction a with
  | nil => rw [List.nil_append, cutFirst?, if_pos rfl]
  | cons c a ih =>
      rw [List.mem_cons, not_or] at h
      rw [List.cons_append, cutFirst?, if_neg (Ne.symm h.1), ih h.2]
      rfl

theorem cutFirst?_eq_none_iff {cs : List Char} : cutFirst? sep cs = none ↔ sep ∉ cs := by
  induction cs with
  | nil => simp [cutFirst?]
  | cons c cs ih =>
      rw [cutFirst?, List.mem_cons, not_or, ← ih]
      by_cases hc : c = sep
      · simp [hc]
      · simp [hc, Ne.symm hc]

@[simp] theorem cutFirst_append {a : List Char} (h : sep ∉ a) (b : List Char) :
    cutFirst sep (a ++ sep :: b) = (a, b) := by
  rw [cutFirst, cutFirst?_append h]
  rfl

@[simp] theorem cutFirst_of_not_mem {cs : List Char} (h : sep ∉ cs) :
    cutFirst sep cs = (cs, []) := by
  rw [cutFirst, cutFirst?_eq_none_iff.mpr h]
  rfl

theorem cutFirst_cons_self (cs : List Char) : (cutFirst sep (sep :: cs)).1 = [] := by
  rw [cutFirst, cutFirst?, if_pos rfl]
  rfl

theorem cutFirst_cons_of_ne {c : Char} (h : c ≠ sep) (cs : List Char) :
    cutFirst sep (c :: cs) = (c :: (cutFirst sep cs).1, (cutFirst sep cs).2) := by
  rw [cutFirst, cutFirst?, if_neg h, cutFirst]
  cases cutFirst? sep cs <;> rfl

/-- A text without the separator comes before whatever is cut off. -/
theorem cutFirst_append_of_not_mem {a : List Char} (h : sep ∉ a) (b : List Char) :
    cutFirst sep (a ++ b) = (a ++ (cutFirst sep b).1, (cutFirst sep b).2) := by
  induction a with
  | nil => rfl
  | cons c a ih =>
      rw [List.mem_cons, not_or] at h
      rw [List.cons_append, cutFirst_cons_of_ne (Ne.symm h.1), ih h.2]
      rfl

theorem not_mem_cutFirst (sep : Char) (cs : List Char) : sep ∉ (cutFirst sep cs).1 := by
  unfold cutFirst
  rcases h : cutFirst? sep cs with _ | ⟨a, b⟩
  · exact cutFirst?_eq_none_iff.mp h
  · exact (cutFirst?_eq_some h).2

/-- A character at the head of a text is only counted. -/
theorem takeWhile_beq (c : Char) (cs : List Char) :
    cs.takeWhile (· == c) = List.replicate (cs.takeWhile (· == c)).length c :=
  List.eq_replicate_of_mem fun d hd => by simpa using List.mem_takeWhile_imp hd

/-! ## The last separator -/

@[simp] theorem afterLast_of_not_mem {cs : List Char} (h : sep ∉ cs) : afterLast sep cs = cs := by
  have hall : cs.reverse.takeWhile (· != sep) = cs.reverse := by
    rw [List.takeWhile_eq_self_iff]
    intro c hc
    have hne : c ≠ sep := by
      rintro rfl
      exact h (List.mem_reverse.mp hc)
    simpa using hne
  rw [afterLast, hall, List.reverse_reverse]

theorem not_mem_afterLast (sep : Char) (cs : List Char) : sep ∉ afterLast sep cs := by
  intro hsep
  have hne := List.mem_takeWhile_imp (List.mem_reverse.mp hsep)
  simp at hne

/-- What stands in front of a separator does not matter for the text after the last one. -/
@[simp] theorem afterLast_append_cons (a b : List Char) :
    afterLast sep (a ++ sep :: b) = afterLast sep b := by
  unfold afterLast
  rw [List.reverse_append, List.reverse_cons, List.append_assoc, List.singleton_append,
    List.takeWhile_append]
  split
  · next hall =>
      -- the text after the separator has no other, so that the separator is the first one met
      have hb : b.reverse.takeWhile (· != sep) = b.reverse :=
        (List.takeWhile_prefix _).eq_of_length hall
      simp [hb]
  · rfl

/-! ## Every separator -/

theorem cutAll_eq_splitOn (sep : Char) (cs : List Char) : cutAll sep cs = cs.splitOn sep := by
  induction cs with
  | nil => rfl
  | cons c cs ih =>
      rw [cutAll, List.splitOn_cons_eq_if_modifyHead, ← ih]
      by_cases hc : c = sep
      · simp [hc]
      · rw [if_neg hc, if_neg (by simpa using hc)]
        -- the character goes to the first part, and there always is one
        rcases hcs : cutAll sep cs with _ | ⟨part, parts⟩
        · exact absurd hcs (cutAll_ne_nil sep cs)
        · rfl

theorem not_mem_of_mem_cutAll {cs part : List Char} (h : part ∈ cutAll sep cs) : sep ∉ part := by
  induction cs generalizing part with
  | nil =>
      rw [List.mem_singleton.mp h]
      exact List.not_mem_nil
  | cons c cs ih =>
      unfold cutAll at h
      split at h
      · rcases List.mem_cons.mp h with rfl | h
        · exact List.not_mem_nil
        · exact ih h
      · next hc =>
          split at h
          · next hnil => exact absurd hnil (cutAll_ne_nil sep cs)
          · next first rest hcut =>
              rw [hcut] at ih
              rcases List.mem_cons.mp h with rfl | h
              · have hfirst := ih List.mem_cons_self
                simp [hfirst, Ne.symm hc]
              · exact ih (List.mem_cons_of_mem first h)

theorem joinAll_cons_cons (part next : List Char) (parts : List (List Char)) :
    joinAll sep (part :: next :: parts) = part ++ sep :: joinAll sep (next :: parts) := by
  simp [joinAll]

theorem mem_joinAll {parts : List (List Char)} {c : Char} (h : c ∈ joinAll sep parts) :
    c = sep ∨ ∃ part ∈ parts, c ∈ part := by
  induction parts with
  | nil => cases h
  | cons part parts ih =>
      rcases parts with _ | ⟨next, parts⟩
      · exact .inr ⟨part, List.mem_cons_self, by simpa [joinAll] using h⟩
      · rw [joinAll_cons_cons, List.mem_append, List.mem_cons] at h
        rcases h with h | rfl | h
        · exact .inr ⟨part, List.mem_cons_self, h⟩
        · exact .inl rfl
        · rcases ih h with hsep | ⟨p, hp, hc⟩
          · exact .inl hsep
          · exact .inr ⟨p, List.mem_cons_of_mem part hp, hc⟩

theorem mem_joinAll_of_mem {parts : List (List Char)} {part : List Char} {c : Char}
    (hpart : part ∈ parts) (hc : c ∈ part) : c ∈ joinAll sep parts := by
  induction parts with
  | nil => cases hpart
  | cons first parts ih =>
      rcases parts with _ | ⟨next, parts⟩
      · rw [List.mem_singleton.mp hpart] at hc
        simpa [joinAll] using hc
      · rw [joinAll_cons_cons, List.mem_append, List.mem_cons]
        rcases List.mem_cons.mp hpart with rfl | hpart
        · exact .inl hc
        · exact .inr (.inr (ih hpart))

/-- The parts of a text hold only characters of the text. -/
theorem mem_of_mem_cutAll {cs part : List Char} {c : Char} (hpart : part ∈ cutAll sep cs)
    (hc : c ∈ part) : c ∈ cs := by
  have h : c ∈ joinAll sep (cutAll sep cs) := mem_joinAll_of_mem hpart hc
  rwa [joinAll_cutAll] at h

/-- Parts that do not hold the separator are found again. -/
theorem cutAll_joinAll {parts : List (List Char)} (hne : parts ≠ [])
    (h : ∀ part ∈ parts, sep ∉ part) : cutAll sep (joinAll sep parts) = parts := by
  rw [cutAll_eq_splitOn]
  exact List.splitOn_intercalate sep h hne

/-- The parts on both sides of a separator are those of the text. -/
theorem cutAll_append_cons (a b : List Char) :
    cutAll sep (a ++ sep :: b) = cutAll sep a ++ cutAll sep b := by
  simp only [cutAll_eq_splitOn]
  exact List.splitOn_append_cons_self a b

theorem joinAll_append {parts more : List (List Char)} (hparts : parts ≠ []) (hmore : more ≠ []) :
    joinAll sep (parts ++ more) = joinAll sep parts ++ sep :: joinAll sep more := by
  induction parts with
  | nil => exact absurd rfl hparts
  | cons part parts ih =>
      rcases parts with _ | ⟨next, parts⟩
      · obtain ⟨first, more, rfl⟩ := List.exists_cons_of_ne_nil hmore
        rw [List.singleton_append, joinAll_cons_cons]
        simp [joinAll]
      · rw [List.cons_append, List.cons_append, joinAll_cons_cons, joinAll_cons_cons,
          ← List.cons_append, ih (List.cons_ne_nil next parts), List.append_assoc,
          List.cons_append]

/-- A text ends with the separator just when its last part is empty and not the only one. -/
theorem getLast?_eq_sep_iff {cs : List Char} :
    cs.getLast? = some sep ↔ ∃ parts, parts ≠ [] ∧ cutAll sep cs = parts ++ [[]] := by
  constructor
  · intro h
    obtain ⟨before, rfl⟩ := List.getLast?_eq_some_iff.mp h
    exact ⟨cutAll sep before, cutAll_ne_nil sep before, cutAll_append_cons before []⟩
  · rintro ⟨parts, hne, hcut⟩
    have hjoin := joinAll_cutAll sep cs
    rw [hcut, joinAll_append hne (by simp)] at hjoin
    rw [← hjoin]
    simp [joinAll]

theorem cutAll_intercalate (sep : Char) {s : String} (hs : s.toList = [sep]) {parts : List String}
    (hne : parts ≠ []) (h : ∀ part ∈ parts, sep ∉ part.toList) :
    cutAll sep (s.intercalate parts).toList = parts.map String.toList := by
  rw [String.toList_intercalate, hs]
  refine cutAll_joinAll (by simpa using hne) ?_
  intro cs hcs
  obtain ⟨part, hpart, rfl⟩ := List.mem_map.mp hcs
  exact h part hpart

end UrlSigning.Text
