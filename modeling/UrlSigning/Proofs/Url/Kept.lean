import UrlSigning.Proofs.Url.Placed
import UrlSigning.Proofs.Url.Rejoined

/-!
# URLs that keep their place

A URL is split, given another query and joined, and then split again by whoever reads it. Its
scheme, its authority and its path are found again if it has an authority. Without one, a path that
begins with two slashes is taken for an authority, and a path that begins with anything but a slash
gets one behind the two slashes that some schemes are shown with; in all other cases the three parts
stay.
-/

namespace UrlSigning.Url

open Text

/-- The two URLs have one scheme, authority and path. -/
def Parts.SamePlace (p q : Parts) : Prop :=
  q.scheme = p.scheme ∧ q.authority = p.authority ∧ q.path = p.path

/-- The scheme, the authority and the path are found again in the URL that they are joined to. -/
def Parts.KeepsPlace (p : Parts) : Prop :=
  p.authority = "" →
    ¬['/', '/'] <+: p.path.toList ∧
      (slashSchemes.contains p.scheme = true → p.path = "" ∨ p.path.toList.head? = some '/')

/-! ## Cleaning -/

theorem isDropped_of_gt {c : Char} (h : 32 < c.toNat) : isDropped c = false := by
  rw [isDropped, Bool.or_eq_false_iff, Bool.or_eq_false_iff, beq_eq_false_iff_ne,
    beq_eq_false_iff_ne, beq_eq_false_iff_ne]
  refine ⟨⟨?_, ?_⟩, ?_⟩ <;> rintro rfl <;> revert h <;> decide

/-- What a URL begins with is neither a control character nor a space. -/
theorem head?_clean {cs : List Char} {c : Char} (h : (clean cs).head? = some c) : 32 < c.toNat := by
  have hhead := List.head?_dropWhile_not (fun c : Char => decide (c.toNat ≤ 32)) cs
  unfold clean at h
  rcases hcs : cs.dropWhile fun c => decide (c.toNat ≤ 32) with _ | ⟨d, ds⟩ <;>
    rw [hcs] at h hhead
  · cases h
  · have hd : 32 < d.toNat := by simpa using hhead
    rw [List.filter_cons_of_pos (by rw [isDropped_of_gt hd]; rfl)] at h
    cases h
    exact hd

theorem clean_of_kept {cs : List Char} (hkept : ∀ c ∈ cs, isDropped c = false)
    (hhead : ∀ c ∈ cs.head?, 32 < c.toNat) : clean cs = cs := by
  have hdrop : (cs.dropWhile fun c => decide (c.toNat ≤ 32)) = cs := by
    rcases cs with _ | ⟨c, cs⟩
    · rfl
    · have hc : 32 < c.toNat := hhead c rfl
      rw [List.dropWhile_cons_of_neg (by simpa using hc)]
  rw [clean, hdrop, filter_of_kept hkept]

/-! ## Schemes -/

/-- The text is a scheme as it is shown: a letter first, and no capitals. -/
structure IsScheme (cs : List Char) : Prop where
  alpha : (cs.head?.map Char.isAlpha).getD false = true
  chars : cs.all isSchemeChar = true
  lower : cs.map Char.toLower = cs

theorem lt_of_isSchemeChar {c : Char} (h : isSchemeChar c = true) : 32 < c.toNat :=
  forall_ascii (P := fun c => isSchemeChar c = true → 32 < c.toNat) (by decide)
    (toNat_lt_of_isSchemeChar h) h

/-- What holds of a character of a scheme in lower case. -/
theorem toLower_of_isSchemeChar {c : Char} (h : isSchemeChar c = true) :
    isSchemeChar c.toLower = true ∧ c.toLower.toLower = c.toLower ∧
      (c.isAlpha = true → c.toLower.isAlpha = true) :=
  forall_ascii
    (P := fun c => isSchemeChar c = true → isSchemeChar c.toLower = true ∧
      c.toLower.toLower = c.toLower ∧ (c.isAlpha = true → c.toLower.isAlpha = true))
    (by decide) (toNat_lt_of_isSchemeChar h) h

/-- A URL has a scheme, or all of it is left to be read. -/
theorem cutScheme_cases (cs : List Char) :
    cutScheme cs = ([], cs) ∨ IsScheme (cutScheme cs).1 := by
  unfold cutScheme
  rcases cutFirst? ':' cs with _ | ⟨name, rest⟩
  · exact .inl rfl
  dsimp only
  split
  · next hname =>
      obtain ⟨halpha, hchars⟩ := Bool.and_eq_true_iff.mp hname
      have hall := List.all_eq_true.mp hchars
      refine .inr ⟨?_, ?_, ?_⟩
      · rcases name with _ | ⟨c, name⟩
        · cases halpha
        · exact (toLower_of_isSchemeChar (hall c List.mem_cons_self)).2.2 halpha
      · rw [List.all_map, List.all_eq_true]
        exact fun c hc => (toLower_of_isSchemeChar (hall c hc)).1
      · rw [List.map_map]
        exact List.map_congr_left fun c hc => (toLower_of_isSchemeChar (hall c hc)).2.1
  · exact .inl rfl

/-- A scheme in front of a colon is read as it is. -/
theorem cutScheme_of_isScheme {scheme : List Char} (h : IsScheme scheme) (rest : List Char) :
    cutScheme (scheme ++ ':' :: rest) = (scheme, rest) := by
  have hcolon : ':' ∉ scheme := fun hmem =>
    absurd (List.all_eq_true.mp h.chars ':' hmem) (by decide)
  unfold cutScheme
  rw [cutFirst?_append hcolon]
  dsimp only
  rw [h.alpha, h.chars, h.lower]
  rfl

/-- No scheme begins with a slash. -/
theorem cutScheme_slash (cs : List Char) : cutScheme ('/' :: cs) = ([], '/' :: cs) := by
  rcases cutScheme_cases ('/' :: cs) with h | h
  · exact h
  · exfalso
    revert h
    unfold cutScheme
    rw [cutFirst?, if_neg (by decide)]
    rcases cutFirst? ':' cs with _ | ⟨name, rest⟩
    · rintro ⟨⟨⟩, -, -⟩
    · rintro ⟨⟨⟩, -, -⟩

theorem head?_cutFirst {sep c : Char} {cs : List Char} (h : c ∈ (cutFirst sep cs).1.head?) :
    c ∈ cs.head? := by
  unfold cutFirst at h
  rcases hcut : cutFirst? sep cs with _ | ⟨before, after⟩ <;> rw [hcut] at h
  · exact h
  · obtain ⟨rfl, -⟩ := cutFirst?_eq_some hcut
    rcases before with _ | ⟨d, before⟩
    · cases h
    · exact h

theorem authority_subset (cs : List Char) : (cutAuthority cs).1 ⊆ cs := by
  unfold cutAuthority
  split
  · intro c hc
    have hrest := (List.takeWhile_sublist _).subset hc
    exact List.mem_cons_of_mem _ (List.mem_cons_of_mem _ hrest)
  · exact List.nil_subset cs

/-- A text without a scheme still has none when it is cut short. -/
theorem cutScheme_cutFirst {sep : Char} (hsep : isSchemeChar sep = false) (hcolon : sep ≠ ':')
    {cs : List Char} (h : cutScheme cs = ([], cs)) :
    cutScheme (cutFirst sep cs).1 = ([], (cutFirst sep cs).1) := by
  unfold cutFirst
  rcases hcut : cutFirst? sep cs with _ | ⟨before, after⟩
  · exact h
  · obtain ⟨rfl, -⟩ := cutFirst?_eq_some hcut
    rw [cutScheme_append hsep hcolon] at h
    obtain ⟨hscheme, hrest⟩ := Prod.ext_iff.mp h
    exact Prod.ext hscheme (List.append_cancel_right hrest)

/-! ## The place of a URL -/

namespace Parts

/-- Whether two slashes stand in front of the authority. -/
def showsSlashes (p : Parts) : Bool :=
  !p.authority.isEmpty ||
    (slashSchemes.contains p.scheme && !(['/', '/'].isPrefixOf p.path.toList))

/-- The path as it stands behind an authority. -/
def slashed (p : Parts) : List Char :=
  if p.path = "" ∨ p.path.toList.head? = some '/' then p.path.toList else '/' :: p.path.toList

/-- What a URL shows behind its scheme and in front of its query. -/
def place (p : Parts) : List Char :=
  if p.showsSlashes then '/' :: '/' :: (p.authority.toList ++ p.slashed) else p.path.toList

theorem toList_join_bare (p : Parts) :
    (join p.bare).toList =
      (if p.scheme.isEmpty then [] else p.scheme.toList ++ [':']) ++ p.place := by
  have hscheme : (if p.scheme.isEmpty then "" else p.scheme ++ ":").toList =
      if p.scheme.isEmpty then [] else p.scheme.toList ++ [':'] := by
    split <;> simp
  have hslashed : (if !p.path.isEmpty && !(['/'].isPrefixOf p.path.toList) then "/" ++ p.path
      else p.path).toList = p.slashed := by
    unfold slashed
    rcases hpath : p.path.toList with _ | ⟨c, cs⟩
    · rw [String.toList_eq_nil_iff] at hpath
      rw [hpath]
      rfl
    · have hne : p.path ≠ "" := by
        intro hempty
        rw [hempty] at hpath
        cases hpath
      by_cases hc : c = '/'
      · simp [List.isPrefixOf, hc, hpath]
      · simp [List.isPrefixOf, hne, hc, Ne.symm hc, hpath]
  have hplace : (if p.showsSlashes then "//" ++ p.authority ++
      (if !p.path.isEmpty && !(['/'].isPrefixOf p.path.toList) then "/" ++ p.path else p.path)
      else p.path).toList = p.place := by
    unfold place
    split
    · rw [String.toList_append, hslashed]
      simp
    · rfl
  show ((if p.scheme.isEmpty then "" else p.scheme ++ ":") ++ (if p.showsSlashes then _ else _) ++
    "" ++ "").toList = _
  rw [String.append_empty, String.append_empty, String.toList_append, hscheme, ← hplace]
  rfl

theorem slashed_eq_iff {p : Parts} :
    p.slashed = p.path.toList ↔ p.path = "" ∨ p.path.toList.head? = some '/' := by
  unfold slashed
  split
  · next hslash => simp [hslash]
  · next hslash => simp [hslash]

theorem head?_slashed {p : Parts} : ∀ c ∈ p.slashed.head?, c = '/' := by
  unfold slashed
  split
  · next hslash =>
      rcases hslash with hempty | hslash
      · rw [hempty]
        rintro c ⟨⟩
      · rw [hslash]
        rintro c ⟨⟩
        rfl
  · rintro c ⟨⟩
    rfl

theorem showsSlashes_iff {p : Parts} :
    p.showsSlashes = true ↔ p.authority ≠ "" ∨
      slashSchemes.contains p.scheme = true ∧ ¬['/', '/'] <+: p.path.toList := by
  unfold showsSlashes
  rw [Bool.or_eq_true, Bool.and_eq_true, Bool.not_eq_true', Bool.not_eq_true',
    ← Bool.not_eq_true, ← Bool.not_eq_true, String.isEmpty_iff, List.isPrefixOf_iff_prefix]

/-- A path that begins with two slashes is shorter when it is read behind a scheme. -/
theorem cutAuthority_ne_of_slashes {cs : List Char} (h : ['/', '/'] <+: cs) :
    (cutAuthority cs).2 ≠ cs := by
  obtain ⟨rest, rfl⟩ := h
  intro heq
  have hshort := (List.dropWhile_sublist (fun c => !endsAuthority c) (l := rest)).length_le
  have hlength := congrArg List.length heq
  change (rest.dropWhile fun c => !endsAuthority c).length = rest.length + 2 at hlength
  omega

/-- The authority and the path are found where they are shown if the URL keeps its place. -/
theorem cutAuthority_place {p : Parts} (hends : ∀ c ∈ p.authority.toList, endsAuthority c = false)
    (hslash : p.authority ≠ "" → p.path = "" ∨ p.path.toList.head? = some '/') :
    cutAuthority p.place = (p.authority.toList, p.path.toList) ↔ p.KeepsPlace := by
  have hhead : ∀ c ∈ p.slashed.head?, endsAuthority c = true := by
    intro c hc
    rw [head?_slashed c hc]
    rfl
  unfold place
  split
  · next hshows =>
      rw [cutAuthority_slashes hends hhead, Prod.ext_iff]
      simp only [true_and, slashed_eq_iff]
      constructor
      · intro hpath hauthority
        rcases showsSlashes_iff.mp hshows with hne | ⟨-, hdouble⟩
        · exact absurd hauthority hne
        · exact ⟨hdouble, fun _ => hpath⟩
      · intro hkeeps
        rcases showsSlashes_iff.mp hshows with hne | ⟨hscheme, hdouble⟩
        · exact hslash hne
        · by_cases hauthority : p.authority = ""
          · exact (hkeeps hauthority).2 hscheme
          · exact hslash hauthority
  · next hshows =>
      rw [showsSlashes_iff, not_or, Decidable.not_not, not_and, Decidable.not_not] at hshows
      obtain ⟨hauthority, hdouble⟩ := hshows
      rw [hauthority]
      by_cases hslashes : ['/', '/'] <+: p.path.toList
      · have hne := cutAuthority_ne_of_slashes hslashes
        constructor
        · intro hcut
          exact absurd (congrArg Prod.snd hcut) hne
        · intro hkeeps
          exact absurd hslashes (hkeeps hauthority).1
      · have hcut : cutAuthority p.path.toList = ([], p.path.toList) := by
          refine cutAuthority_of_ne fun rest hrest => hslashes ?_
          rw [hrest]
          exact ⟨rest, rfl⟩
        constructor
        · intro _ _
          exact ⟨hslashes, fun hscheme => absurd (hdouble hscheme) hslashes⟩
        · intro _
          exact hcut

end Parts

/-! ## Reading a URL again -/

section

variable {url query : String} {p joined : Parts}

/-- A path is empty, or begins with a slash, or is what stands behind the scheme. -/
theorem path_cases (h : split url = .ok p) :
    (p.path = "" ∨ p.path.toList.head? = some '/') ∨
      p.path.toList = (cutFirst '?' (cutFirst '#' (cutScheme (clean url.toList)).2).1).1 := by
  rw [← String.toList_eq_nil_iff, eq_cutParts_of_split h, path_cutParts]
  by_cases hslashes : ∃ rest, (cutScheme (clean url.toList)).2 = '/' :: '/' :: rest
  · obtain ⟨rest, hrest⟩ := hslashes
    rw [hrest]
    refine .inl (cutFirst_of_endsAuthority fun c hc => ?_)
    have hhead := List.head?_dropWhile_not (fun c => !endsAuthority c) rest
    rw [show (rest.dropWhile fun c => !endsAuthority c).head? = some c from hc] at hhead
    simpa using hhead
  · rw [cutAuthority_of_ne fun rest hrest => hslashes ⟨rest, hrest⟩]
    exact .inr rfl

/-- Nothing of an authority would be dropped. -/
theorem kept_authority (h : split url = .ok p) {c : Char} (hc : c ∈ p.authority.toList) :
    isDropped c = false := by
  rw [eq_cutParts_of_split h, authority_cutParts] at hc
  exact kept_of_mem_clean (cutScheme_subset _ (authority_subset _ hc))

/-- Nothing of a path would be dropped. -/
theorem kept_path (h : split url = .ok p) {c : Char} (hc : c ∈ p.path.toList) :
    isDropped c = false := by
  rw [eq_cutParts_of_split h, path_cutParts] at hc
  have hrest := cutFirst_subset '#' _ (cutFirst_subset '?' _ hc)
  exact kept_of_mem_clean (cutScheme_subset _ (cutAuthority_subset _ hrest))

/-- Nothing of a place would be dropped. -/
theorem kept_place (h : split url = .ok p) {c : Char} (hc : c ∈ p.place) : isDropped c = false := by
  have hslashed (hc : c ∈ p.slashed) : isDropped c = false := by
    unfold Parts.slashed at hc
    split at hc
    · exact kept_path h hc
    · rcases List.mem_cons.mp hc with rfl | hc
      · rfl
      · exact kept_path h hc
  unfold Parts.place at hc
  split at hc
  · rw [List.mem_cons, List.mem_cons, List.mem_append] at hc
    rcases hc with rfl | rfl | hc | hc
    · rfl
    · rfl
    · exact kept_authority h hc
    · exact hslashed hc
  · exact kept_path h hc

theorem isScheme_of_split (h : split url = .ok p) (hne : p.scheme ≠ "") :
    IsScheme p.scheme.toList := by
  rw [eq_cutParts_of_split h] at hne ⊢
  rw [scheme_cutParts]
  rcases cutScheme_cases (clean url.toList) with hnone | hscheme
  · rw [Ne, ← String.toList_eq_nil_iff, scheme_cutParts, hnone] at hne
    exact absurd rfl hne
  · exact hscheme

/-- A place without a scheme is not read as one, and does not begin with a space. -/
theorem place_of_no_scheme (h : split url = .ok p) (hnone : p.scheme = "") :
    cutScheme p.place = ([], p.place) ∧ ∀ c ∈ p.place.head?, 32 < c.toNat := by
  unfold Parts.place
  split
  · refine ⟨cutScheme_slash _, ?_⟩
    rintro c ⟨⟩
    decide
  rcases path_cases h with (hempty | hslash) | hpath
  · rw [hempty]
    refine ⟨rfl, ?_⟩
    rintro c ⟨⟩
  · obtain ⟨rest, hrest⟩ := List.head?_eq_some_iff.mp hslash
    rw [hrest]
    refine ⟨cutScheme_slash _, ?_⟩
    rintro c ⟨⟩
    decide
  · have hcut : cutScheme (clean url.toList) = ([], clean url.toList) := by
      rcases cutScheme_cases (clean url.toList) with hcut | hscheme
      · exact hcut
      · rw [eq_cutParts_of_split h, ← String.toList_eq_nil_iff, scheme_cutParts] at hnone
        rw [hnone] at hscheme
        cases hscheme.alpha
    rw [hcut] at hpath
    rw [hpath]
    refine ⟨cutScheme_cutFirst (by decide) (by decide)
      (cutScheme_cutFirst (by decide) (by decide) hcut), fun c hc => ?_⟩
    exact head?_clean (head?_cutFirst (head?_cutFirst hc))

/-- A URL is cut where its parts were joined. -/
theorem cutScheme_join_bare (h : split url = .ok p) :
    cutScheme (join p.bare).toList = (p.scheme.toList, p.place) := by
  rw [Parts.toList_join_bare]
  by_cases hscheme : p.scheme = ""
  · rw [hscheme]
    exact (place_of_no_scheme h hscheme).1
  · rw [if_neg (by simpa using hscheme), List.append_assoc]
    exact cutScheme_of_isScheme (isScheme_of_split h hscheme) p.place

theorem clean_join_bare (h : split url = .ok p) :
    clean (join p.bare).toList = (join p.bare).toList := by
  rw [Parts.toList_join_bare]
  by_cases hscheme : p.scheme = ""
  · rw [hscheme]
    exact clean_of_kept (fun c hc => kept_place h hc) (place_of_no_scheme h hscheme).2
  · have hshown := isScheme_of_split h hscheme
    have hchars (c : Char) (hc : c ∈ p.scheme.toList) : 32 < c.toNat :=
      lt_of_isSchemeChar (List.all_eq_true.mp hshown.chars c hc)
    rw [if_neg (by simpa using hscheme), List.append_assoc]
    apply clean_of_kept
    · intro c hc
      rw [List.mem_append] at hc
      rcases hc with hc | hc
      · exact isDropped_of_gt (hchars c hc)
      · rcases List.mem_cons.mp hc with rfl | hc
        · rfl
        · exact kept_place h hc
    · intro c hc
      rcases hlist : p.scheme.toList with _ | ⟨d, cs⟩
      · exact absurd (String.toList_eq_nil_iff.mp hlist) hscheme
      · rw [hlist] at hc
        cases hc
        exact hchars c (by rw [hlist]; exact List.mem_cons_self)

/-- The scheme, the authority and the path of a URL that is given a query are found again in it
exactly if it keeps its place. -/
theorem samePlace_iff (h : split url = .ok p) (hne : query ≠ "")
    (hjoined : split (join { p with query := query }) = .ok joined) :
    p.SamePlace joined ↔ p.KeepsPlace := by
  have hbare := startsNone_join_bare h
  rw [join_eq_bare hne, split_append hbare] at hjoined
  rcases hshown : split (join p.bare) with fault | shown <;> rw [hshown] at hjoined
  · cases hjoined
  obtain rfl : shown.followedBy (query ++ p.tail) = joined := Except.ok.inj hjoined
  show p.SamePlace shown ↔ _
  have hstarts : StartsNone (cutAuthority p.place).2 := by
    refine hbare.of_subset fun c hc => ?_
    rw [Parts.toList_join_bare]
    exact List.mem_append_right _ (cutAuthority_subset _ hc)
  have hparts := eq_cutParts_of_split hshown
  rw [clean_join_bare h] at hparts
  have hscheme : shown.scheme = p.scheme := by
    rw [← String.toList_inj, hparts, scheme_cutParts, cutScheme_join_bare h]
  have hauthority : shown.authority.toList = (cutAuthority p.place).1 := by
    rw [hparts, authority_cutParts, cutScheme_join_bare h]
  have hpath : shown.path.toList = (cutAuthority p.place).2 := by
    rw [hparts, path_cutParts, cutScheme_join_bare h]
    dsimp only
    rw [cutFirst_of_not_mem hstarts.2]
    dsimp only
    rw [cutFirst_of_not_mem hstarts.1]
  rw [← Parts.cutAuthority_place (fun c hc => endsAuthority_of_split h hc) (path_of_split h),
    Prod.ext_iff, ← hauthority, ← hpath, String.toList_inj, String.toList_inj]
  exact ⟨fun hsame => hsame.2, fun hsame => ⟨hscheme, hsame⟩⟩

end

end UrlSigning.Url
