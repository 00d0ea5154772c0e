import UrlSigning.Proofs.Text.Percent
import UrlSigning.Url.Path

/-!
# Canonical paths

A normal path has nothing to take out: it begins with a slash, no segment of it is one of points,
and none is empty but the first and perhaps the last. Normalizing makes a path normal and leaves a
normal one as it is. Encoding goes segment by segment, and the segments that lead nowhere are the
only ones that are written as they are; so the two steps do not see each other, and may be taken in
either order.
-/

namespace UrlSigning.Url.Path

open Text

/-! ## Segments -/

/-- The texts between the slashes of a path. -/
def segments (path : String) : List (List Char) :=
  cutAll '/' path.toList

/-- The segments with a slash on both sides. -/
def interior (path : String) : List (List Char) :=
  (segments path).tail.dropLast

/-- A segment that leads somewhere: it is not empty and no segment of points. -/
structure IsName (segment : List Char) : Prop where
  ne_nil : segment ≠ []
  ne_point : segment ≠ ['.']
  ne_points : segment ≠ ['.', '.']

/-- The path begins with a slash, it has no segments of points, and no empty ones but at its
ends. -/
structure IsNormal (path : String) : Prop where
  slash : path.toList.head? = some '/'
  noPoints : ∀ segment ∈ segments path, segment ≠ ['.'] ∧ segment ≠ ['.', '.']
  noEmpty : ∀ segment ∈ interior path, segment ≠ []

section

variable {kept segments : List (List Char)} {segment : List Char}

theorem resolve_of_names (h : ∀ segment ∈ segments, IsName segment) :
    resolve kept segments = kept.reverse ++ segments := by
  induction segments generalizing kept with
  | nil => exact (List.append_nil _).symm
  | cons segment rest ih =>
      obtain ⟨hname, hrest⟩ := List.forall_mem_cons.mp h
      rw [resolve, if_neg (not_or.mpr ⟨hname.ne_nil, hname.ne_point⟩), if_neg hname.ne_points,
        ih hrest, List.reverse_cons, List.append_assoc]
      rfl

/-- What is kept are segments that lead somewhere. -/
theorem mem_resolve (h : segment ∈ resolve kept segments) :
    segment ∈ kept ∨ segment ∈ segments ∧ IsName segment := by
  induction segments generalizing kept with
  | nil => exact .inl (List.mem_reverse.mp h)
  | cons first rest ih =>
      have hlater (hmem : segment ∈ rest ∧ IsName segment) :
          segment ∈ first :: rest ∧ IsName segment :=
        ⟨List.mem_cons_of_mem first hmem.1, hmem.2⟩
      unfold resolve at h
      split at h
      · exact (ih h).imp_right hlater
      · next hone =>
          split at h
          · exact (ih h).imp List.mem_of_mem_drop hlater
          · next htwo =>
              obtain ⟨hnil, hpoint⟩ := not_or.mp hone
              rcases ih h with hkept | hrest
              · rcases List.mem_cons.mp hkept with rfl | hkept
                · exact .inr ⟨List.mem_cons_self, hnil, hpoint, htwo⟩
                · exact .inl hkept
              · exact .inr (hlater hrest)

theorem resolve_nil_cons : resolve kept ([] :: segments) = resolve kept segments := by
  rw [resolve, if_pos (.inl rfl)]

theorem resolve_concat_nil : resolve kept (segments ++ [[]]) = resolve kept segments := by
  induction segments generalizing kept with
  | nil => exact resolve_nil_cons
  | cons segment rest ih =>
      rw [List.cons_append]
      unfold resolve
      rw [ih, ih, ih]

/-- Renaming segments does not matter, as long as those that lead nowhere stay what they are. -/
theorem resolve_map {f : List Char → List Char} (hf : Function.Injective f) (hnil : f [] = [])
    (hpoint : f ['.'] = ['.']) (hpoints : f ['.', '.'] = ['.', '.'])
    (kept segments : List (List Char)) :
    resolve (kept.map f) (segments.map f) = (resolve kept segments).map f := by
  induction segments generalizing kept with
  | nil => exact List.map_reverse.symm
  | cons segment rest ih =>
      simp only [List.map_cons, resolve, hf.eq_iff' hnil, hf.eq_iff' hpoint, hf.eq_iff' hpoints]
      split_ifs
      · exact ih kept
      · rw [← List.map_drop, ih]
      · rw [← List.map_cons, ih]

end

/-! ## Normalizing -/

/-- What follows the last slash of a normalized path: nothing, if the path ends with a slash. -/
def ending (path : String) : List (List Char) :=
  if path.toList.getLast? = some '/' then [[]] else []

section

variable {path : String} {cs : List Char}

theorem segments_of_slash (h : path.toList = '/' :: cs) : segments path = [] :: cutAll '/' cs := by
  rw [segments, h, cutAll, if_pos rfl]

/-- The names of a path, one behind the other. -/
theorem toList_normalize (h : path.toList.head? = some '/') :
    (normalize path).toList =
      '/' :: joinAll '/' (resolve [] (segments path) ++ ending path) := by
  obtain ⟨cs, hcs⟩ := List.head?_eq_some_iff.mp h
  rw [normalize, String.toList_ofList, normalizeChars, hcs, List.isEmpty_cons,
    if_neg Bool.false_ne_true, ← hcs, if_pos h, ← segments, ending]
  dsimp only
  rw [List.singleton_append, List.cons_append]
  by_cases hlast : path.toList.getLast? = some '/'
  · rw [if_pos hlast]
    by_cases hkept : resolve [] (segments path) = []
    · simp [hkept, joinAll]
    · rw [if_pos ⟨hlast, hkept⟩, joinAll_append hkept (List.cons_ne_nil [] [])]
      rfl
  · rw [if_neg hlast, if_neg fun hboth => hlast hboth.1]
    simp

/-- The segments of a normalized path are the names, and what follows the last slash. -/
theorem segments_normalize (h : path.toList.head? = some '/') :
    segments (normalize path) = [] :: if resolve [] (segments path) = [] then [[]]
      else resolve [] (segments path) ++ ending path := by
  rw [segments_of_slash (toList_normalize h)]
  congr 1
  by_cases hkept : resolve [] (segments path) = []
  · rw [if_pos hkept, hkept, ending]
    split <;> rfl
  · rw [if_neg hkept]
    refine cutAll_joinAll (List.append_ne_nil_of_left_ne_nil hkept _) ?_
    intro part hpart
    rcases List.mem_append.mp hpart with hname | hend
    · rcases mem_resolve hname with hnil | ⟨hmem, -⟩
      · cases hnil
      · exact not_mem_of_mem_cutAll hmem
    · unfold ending at hend
      split at hend
      · rw [List.mem_singleton.mp hend]
        exact List.not_mem_nil
      · cases hend

theorem mem_ending {segment : List Char} (h : segment ∈ ending path) : segment = [] := by
  unfold ending at h
  split at h
  · exact List.mem_singleton.mp h
  · cases h

theorem isName_of_mem {segment : List Char} (h : segment ∈ resolve [] (segments path)) :
    IsName segment := by
  rcases mem_resolve h with hnil | ⟨-, hname⟩
  · cases hnil
  · exact hname

/-- An empty path, or one that begins with a slash, is normal when it is normalized. -/
theorem isNormal_normalize (h : path = "" ∨ path.toList.head? = some '/') :
    IsNormal (normalize path) := by
  rcases h with rfl | h
  · exact ⟨rfl, by decide, by decide⟩
  refine ⟨by rw [toList_normalize h]; rfl, ?_, ?_⟩
  · intro segment hmem
    have hname : segment = [] ∨ IsName segment := by
      rw [segments_normalize h, List.mem_cons] at hmem
      rcases hmem with rfl | hmem
      · exact .inl rfl
      · split at hmem
        · exact .inl (List.mem_singleton.mp hmem)
        · exact (List.mem_append.mp hmem).symm.imp mem_ending isName_of_mem
    rcases hname with rfl | hname
    · exact ⟨by decide, by decide⟩
    · exact ⟨hname.ne_point, hname.ne_points⟩
  · intro segment hmem
    rw [interior, segments_normalize h, List.tail_cons] at hmem
    split at hmem
    · cases hmem
    · -- the last segment is the one that may be empty
      unfold ending at hmem
      split at hmem
      · rw [List.dropLast_concat] at hmem
        exact (isName_of_mem hmem).ne_nil
      · rw [List.append_nil] at hmem
        exact (isName_of_mem ((List.dropLast_sublist _).mem hmem)).ne_nil

/-- A path ends with a slash just when its last segment is empty. -/
theorem getLast?_of_segments {init : List (List Char)} {last : List Char}
    (h : segments path = [] :: (init ++ [last])) :
    path.toList.getLast? = some '/' ↔ last = [] := by
  rw [getLast?_eq_sep_iff, ← segments, h, ← List.cons_append]
  constructor
  · rintro ⟨parts, -, hparts⟩
    exact (List.cons.inj (List.append_inj' hparts rfl).2).1
  · rintro rfl
    exact ⟨_, List.cons_ne_nil _ _, rfl⟩

/-- A normal path is left as it is. -/
theorem normalize_of_isNormal (h : IsNormal path) : normalize path = path := by
  obtain ⟨cs, hcs⟩ := List.head?_eq_some_iff.mp h.slash
  obtain ⟨init, last, hcut⟩ : ∃ init last, cutAll '/' cs = init ++ [last] :=
    ⟨_, _, (List.dropLast_concat_getLast (cutAll_ne_nil '/' cs)).symm⟩
  have hsegments : segments path = [] :: (init ++ [last]) := by
    rw [segments_of_slash hcs, hcut]
  have hpoints : ∀ segment ∈ init ++ [last], segment ≠ ['.'] ∧ segment ≠ ['.', '.'] := by
    intro segment hmem
    exact h.noPoints segment (hsegments ▸ List.mem_cons_of_mem _ hmem)
  have hinit : ∀ segment ∈ init, IsName segment := by
    intro segment hmem
    have hinterior : interior path = init := by
      rw [interior, hsegments, List.tail_cons, List.dropLast_concat]
    obtain ⟨hpoint, htwo⟩ := hpoints segment (List.mem_append_left _ hmem)
    exact ⟨h.noEmpty segment (hinterior ▸ hmem), hpoint, htwo⟩
  -- the last segment is a name, or it is empty and the path ends with a slash
  have hnames : resolve [] (segments path) ++ ending path = init ++ [last] := by
    rw [ending, hsegments, resolve_nil_cons]
    by_cases hlast : last = []
    · rw [if_pos ((getLast?_of_segments hsegments).mpr hlast), hlast, resolve_concat_nil,
        resolve_of_names hinit]
      rfl
    · have hall : ∀ segment ∈ init ++ [last], IsName segment := by
        intro segment hmem
        rcases List.mem_append.mp hmem with hmem | hmem
        · exact hinit segment hmem
        · obtain rfl := List.mem_singleton.mp hmem
          obtain ⟨hpoint, htwo⟩ := hpoints segment (List.mem_append_right _ hmem)
          exact ⟨hlast, hpoint, htwo⟩
      rw [if_neg (mt (getLast?_of_segments hsegments).mp hlast), resolve_of_names hall,
        List.append_nil]
      rfl
  rw [← String.toList_inj, toList_normalize h.slash, hnames, hcs, ← hcut, joinAll_cutAll]

/-- A normalized path ends with a slash just when the path does, unless nothing is left of it. -/
theorem getLast?_normalize (h : path.toList.head? = some '/') (hne : normalize path ≠ "/") :
    (normalize path).toList.getLast? = some '/' ↔ path.toList.getLast? = some '/' := by
  have hkept : resolve [] (segments path) ≠ [] := by
    intro hnil
    apply hne
    rw [← String.toList_inj, toList_normalize h, hnil, ending]
    split <;> rfl
  have hsegments := segments_normalize h
  rw [if_neg hkept] at hsegments
  by_cases hlast : path.toList.getLast? = some '/'
  · rw [ending, if_pos hlast] at hsegments
    simp only [hlast, getLast?_of_segments hsegments]
  · rw [ending, if_neg hlast, List.append_nil, ← List.dropLast_concat_getLast hkept] at hsegments
    have hname := isName_of_mem (List.getLast_mem hkept)
    simp only [hlast, getLast?_of_segments hsegments, hname.ne_nil]

theorem normalize_eq_self_iff (h : path = "" ∨ path.toList.head? = some '/') :
    normalize path = path ↔ IsNormal path := by
  constructor
  · intro heq
    rw [← heq]
    exact isNormal_normalize h
  · exact normalize_of_isNormal

end

/-! ## Encoding -/

section

variable {path : String}

theorem separates_slash : Percent.Separates (Percent.safeWith ['/']) '/' :=
  ⟨by decide, by decide, by decide, by decide⟩

theorem toList_encode (path : String) :
    (encode path).toList = Percent.encodeChars (Percent.safeWith ['/']) path.toList := by
  rw [encode, Percent.encode, String.toList_ofList]

theorem encodeChars_slash (cs : List Char) :
    Percent.encodeChars (Percent.safeWith ['/']) ('/' :: cs) =
      '/' :: Percent.encodeChars (Percent.safeWith ['/']) cs := rfl

theorem encode_injective : Function.Injective encode := by
  intro path path' h
  rw [← String.toList_inj, toList_encode, toList_encode] at h
  exact String.toList_inj.mp (Percent.encodeChars_injective (by decide) h)

theorem count_encode (path : String) :
    (encode path).toList.count '/' = path.toList.count '/' := by
  rw [toList_encode, separates_slash.count_encodeChars]

/-- Encoding keeps a slash in front, and puts none there. -/
theorem head?_encode (h : path = "" ∨ path.toList.head? = some '/') :
    (encode path).toList.head? = path.toList.head? := by
  rcases h with rfl | h
  · rfl
  · obtain ⟨rest, hrest⟩ := List.head?_eq_some_iff.mp h
    rw [toList_encode, hrest, encodeChars_slash]
    rfl

theorem segments_encode (path : String) :
    segments (encode path) =
      (segments path).map (Percent.encodeChars (Percent.safeWith ['/'])) := by
  rw [segments, toList_encode, separates_slash.cutAll_encodeChars, segments]

theorem ending_encode (path : String) : ending (encode path) = ending path := by
  unfold ending
  simp only [toList_encode, separates_slash.getLast?_encodeChars (by decide)]

/-- It does not matter whether a path is normalized before it is encoded or after. -/
theorem encode_normalize (h : path = "" ∨ path.toList.head? = some '/') :
    encode (normalize path) = normalize (encode path) := by
  rcases h with rfl | h
  · decide
  have hhead : (encode path).toList.head? = some '/' := by rw [head?_encode (.inr h), h]
  -- points are unreserved, so that no other segment is written as one of points
  have hnames : resolve [] (segments (encode path)) =
      (resolve [] (segments path)).map (Percent.encodeChars (Percent.safeWith ['/'])) := by
    rw [segments_encode]
    exact resolve_map (Percent.encodeChars_injective (by decide)) rfl (by decide) (by decide) [] _
  have hending :
      (ending path).map (Percent.encodeChars (Percent.safeWith ['/'])) = ending path := by
    unfold ending
    split <;> rfl
  rw [← String.toList_inj, toList_normalize hhead, hnames, ending_encode, ← hending,
    ← List.map_append, toList_encode, toList_normalize h, encodeChars_slash,
    separates_slash.encodeChars_joinAll]

end

/-! ## The two steps -/

/-- Of a path that is empty or begins with a slash, the first step makes a normal one, which ends
with a slash just when the path does, unless nothing is left of it; a normal path is left as it is,
and no other. The second step keeps apart what is different, and the number of slashes. Both steps
are the second after the first, and the first after the second as well. -/
theorem canonical_steps_independent {path : String}
    (h : path = "" ∨ path.toList.head? = some '/') :
    IsNormal (canonical true false path) ∧
    (canonical true false path ≠ "/" →
      ((canonical true false path).toList.getLast? = some '/' ↔
        path.toList.getLast? = some '/')) ∧
    (canonical true false path = path ↔ IsNormal path) ∧
    canonical true false (canonical true false path) = canonical true false path ∧
    Function.Injective (canonical false true) ∧
    (canonical false true path).toList.count '/' = path.toList.count '/' ∧
    canonical true true path = canonical false true (canonical true false path) ∧
    canonical true true path = canonical true false (canonical false true path) := by
  have hnormal : IsNormal (canonical true false path) := isNormal_normalize h
  refine ⟨hnormal, ?_, normalize_eq_self_iff h, normalize_of_isNormal hnormal, encode_injective,
    count_encode path, rfl, encode_normalize h⟩
  intro hne
  rcases h with rfl | h
  · exact absurd rfl hne
  · exact getLast?_normalize h hne

/-- An escaped point is no point, before it is escaped again and after. -/
theorem canonical_steps_independent_points :
    "/docs/.//../%2E./a b/".toList.head? = some '/' ∧
    IsNormal (canonical true false "/docs/.//../%2E./a b/") ∧
    canonical true false (canonical false true "/docs/.//../%2E./a b/") = "/%252E./a%20b/" ∧
    canonical true true "/docs/.//../%2E./a b/" = "/%252E./a%20b/" := by
  have hslash : "/docs/.//../%2E./a b/".toList.head? = some '/' := by decide
  obtain ⟨hnormal, -, -, -, -, -, -, hcommute⟩ := canonical_steps_independent (.inr hslash)
  have hboth : canonical true true "/docs/.//../%2E./a b/" = "/%252E./a%20b/" := by decide
  exact ⟨hslash, hnormal, hcommute ▸ hboth, hboth⟩

end UrlSigning.Url.Path
