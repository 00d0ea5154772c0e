import UrlSigning.Proofs.Entries
import UrlSigning.Proofs.Text.Cut
import UrlSigning.Proofs.Text.Percent
import UrlSigning.Url.Query

/-!
# Reading queries that were written

Names and values that were written as a query are read as they were, and the pairs of the query as
it stands are their encodings.
-/

namespace UrlSigning.Url.Query

open Text

/-! ## Encoded names and values -/

/-- An encoded text holds unreserved characters and percent signs only. -/
theorem not_mem_encodeText {c : Char} (hreserved : Percent.isUnreserved c = false) (hc : c ≠ '%')
    (s : String) : c ∉ (encodeText s).toList := by
  intro h
  rw [encodeText, Percent.encode, String.toList_ofList] at h
  rcases Percent.mem_encodeChars (fun _ hc => hc) h with h | h
  · exact hc h
  · rw [hreserved] at h
    cases h

@[simp] theorem decodeText_encodeText (s : String) : decodeText (encodeText s).toList = s := by
  -- no plus sign is there to be read as a space
  have hplus : ((encodeText s).toList.map fun c => if c = '+' then ' ' else c) =
      (encodeText s).toList := by
    refine (List.map_congr_left fun c hc => ?_).trans (List.map_id _)
    have hne : c ≠ '+' := fun h => not_mem_encodeText (by decide) (by decide) s (h ▸ hc)
    rw [if_neg hne]
    rfl
  rw [decodeText, hplus, encodeText, Percent.encode, String.toList_ofList,
    Percent.decodeChars_encodeChars (by decide), String.ofList_toList]

theorem encodeText_injective {s t : String} (h : encodeText s = encodeText t) : s = t := by
  rw [← decodeText_encodeText s, h, decodeText_encodeText]

theorem encodeText_of_unreserved {s : String}
    (h : ∀ c ∈ s.toList, Percent.isUnreserved c = true) : encodeText s = s := by
  rw [encodeText, Percent.encode, Percent.encodeChars_of_safe, String.ofList_toList]
  intro c hc
  exact ⟨h c hc, Percent.toNat_lt_of_isUnreserved (h c hc)⟩

/-! ## Pairs -/

/-- A pair with its name and its value encoded. -/
def encodePair (p : String × String) : String × String :=
  (encodeText p.1, encodeText p.2)

/-- A pair as it stands in a query. -/
def part (p : String × String) : String :=
  p.1 ++ "=" ++ p.2

theorem write_eq (pairs : List (String × String)) :
    write pairs = "&".intercalate (pairs.map fun p => part (encodePair p)) := by
  rw [write, writeRaw, List.map_map]
  rfl

theorem toList_part (p : String × String) : (part p).toList = p.1.toList ++ '=' :: p.2.toList := by
  simp [part]

theorem cutFirst_part (p : String × String) :
    cutFirst '=' (part (encodePair p)).toList =
      ((encodeText p.1).toList, (encodeText p.2).toList) := by
  rw [toList_part]
  exact cutFirst_append (not_mem_encodeText (by decide) (by decide) p.1) _

theorem cutAll_write {pairs : List (String × String)} (h : pairs ≠ []) :
    cutAll '&' (write pairs).toList = pairs.map fun p => (part (encodePair p)).toList := by
  rw [write_eq, cutAll_intercalate '&' rfl (by simpa using h), List.map_map]
  · rfl
  · -- an ampersand in a name or a value is written with a percent sign
    intro s hs
    obtain ⟨p, -, rfl⟩ := List.mem_map.mp hs
    have hname := not_mem_encodeText (c := '&') (by decide) (by decide) p.1
    have hvalue := not_mem_encodeText (c := '&') (by decide) (by decide) p.2
    simp [toList_part, encodePair, hname, hvalue]

/-- As it stands, a query holds the encoded pairs. -/
theorem rawPairs_write {pairs : List (String × String)} (h : pairs ≠ []) :
    rawPairs (write pairs) = pairs.map encodePair := by
  rw [rawPairs, cutAll_write h, List.map_map]
  refine List.map_congr_left fun p _ => ?_
  dsimp only [Function.comp]
  rw [cutFirst_part]
  simp [encodePair]

/-- A query is read as the pairs that were written. -/
theorem read_write {pairs : List (String × String)} (h : pairs ≠ []) :
    read (write pairs) = pairs := by
  have hfilter : ((pairs.map fun p => (part (encodePair p)).toList).filter (!·.isEmpty)) =
      pairs.map fun p => (part (encodePair p)).toList := by
    rw [List.filter_eq_self]
    intro cs hcs
    obtain ⟨p, -, rfl⟩ := List.mem_map.mp hcs
    simp [toList_part]
  rw [read, cutAll_write h, hfilter, List.map_map]
  refine (List.map_congr_left fun p _ => ?_).trans (List.map_id pairs)
  dsimp only [Function.comp]
  rw [cutFirst_part]
  simp

theorem write_ne_empty {pairs : List (String × String)} (h : pairs ≠ []) : write pairs ≠ "" := by
  intro hempty
  have hread := read_write h
  rw [hempty] at hread
  exact h hread.symm

theorem write_append {pairs more : List (String × String)} (h : pairs ≠ []) (hmore : more ≠ []) :
    write (pairs ++ more) = write pairs ++ "&" ++ write more := by
  rw [write_eq, write_eq, write_eq, List.map_append]
  exact String.intercalate_append_of_ne_nil (by simpa using h) (by simpa using hmore)

/-- Whether a written query can hold the character. -/
def isWritten (c : Char) : Bool :=
  c == '&' || c == '=' || c == '%' || Percent.isUnreserved c

theorem isWritten_of_mem_encodeText {c : Char} {s : String} (h : c ∈ (encodeText s).toList) :
    isWritten c = true := by
  rw [encodeText, Percent.encode, String.toList_ofList] at h
  rcases Percent.mem_encodeChars (fun _ hc => hc) h with rfl | h
  · rfl
  · simp [isWritten, h]

/-- A written query holds encoded names and values, and what stands between them. -/
theorem isWritten_of_mem {pairs : List (String × String)} {c : Char}
    (h : c ∈ (write pairs).toList) : isWritten c = true := by
  have hpart (p : String × String) (hc : c ∈ (part (encodePair p)).toList) :
      isWritten c = true := by
    rw [toList_part, List.mem_append, List.mem_cons] at hc
    rcases hc with hc | rfl | hc
    · exact isWritten_of_mem_encodeText hc
    · rfl
    · exact isWritten_of_mem_encodeText hc
  induction pairs with
  | nil => cases h
  | cons p pairs ih =>
      rcases pairs with _ | ⟨q, pairs⟩
      · rw [write_eq, List.map_singleton, String.intercalate_singleton] at h
        exact hpart p h
      · have happend : write (p :: q :: pairs) = write [p] ++ "&" ++ write (q :: pairs) :=
          write_append (List.cons_ne_nil p []) (List.cons_ne_nil q pairs)
        rw [happend, String.toList_append, String.toList_append, List.mem_append,
          List.mem_append] at h
        rcases h with (h | h) | h
        · rw [write_eq, List.map_singleton, String.intercalate_singleton] at h
          exact hpart p h
        · rw [List.mem_singleton.mp h]
          rfl
        · exact ih h

/-! ## The first value of each name -/

theorem mem_foldl_firstValues {pairs : List (String × String)} {es : Entries String String}
    {p : String × String}
    (h : p ∈ pairs.foldl (fun es p => if es.has p.1 then es else es.put p.1 p.2) es) :
    p ∈ es ∨ p ∈ pairs := by
  induction pairs generalizing es with
  | nil => exact .inl h
  | cons q pairs ih =>
      rcases ih h with h | h
      · dsimp only at h
        split at h
        · exact .inl h
        · rcases Entries.mem_put h with rfl | h
          · exact .inr List.mem_cons_self
          · exact .inl h
      · exact .inr (List.mem_cons_of_mem q h)

theorem mem_of_mem_firstValues {pairs : List (String × String)} {p : String × String}
    (h : p ∈ firstValues pairs) : p ∈ pairs := by
  rcases mem_foldl_firstValues h with h | h
  · cases h
  · exact h

theorem nodup_foldl_firstValues {pairs : List (String × String)} {es : Entries String String}
    (h : es.keys.Nodup) :
    (Entries.keys
      (pairs.foldl (fun es p => if es.has p.1 then es else es.put p.1 p.2) es)).Nodup := by
  induction pairs generalizing es with
  | nil => exact h
  | cons p pairs ih =>
      apply ih
      dsimp only
      split
      · exact h
      · exact Entries.nodup_keys_put p.1 p.2 h

theorem foldl_firstValues_of_nodup {pairs : List (String × String)} {es : Entries String String}
    (h : (Entries.keys (es ++ pairs)).Nodup) :
    pairs.foldl (fun es p => if es.has p.1 then es else es.put p.1 p.2) es = es ++ pairs := by
  induction pairs generalizing es with
  | nil => exact (List.append_nil es).symm
  | cons p pairs ih =>
      -- the name is new, and the names stay distinct with it behind the others
      have hp : p.1 ∉ es.keys := Entries.not_mem_keys_of_nodup h
      rw [List.foldl_cons, if_neg (by rwa [Entries.has_iff]), Entries.put_of_not_mem p.2 hp, ih] <;>
        rw [List.append_assoc]
      · rfl
      · exact h

/-- All pairs are kept just when no name comes twice. -/
theorem firstValues_eq_self_iff {pairs : List (String × String)} :
    firstValues pairs = pairs ↔ (Entries.keys pairs).Nodup := by
  constructor
  · intro h
    rw [← h]
    exact nodup_foldl_firstValues List.nodup_nil
  · intro h
    have hall : firstValues pairs = [] ++ pairs := foldl_firstValues_of_nodup h
    exact hall

end UrlSigning.Url.Query
