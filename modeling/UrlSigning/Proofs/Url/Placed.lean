import UrlSigning.Proofs.Url.Target

/-!
# URLs of a place and a path

A URL of the web that names a place and has a path: it is read in the same parts by the one who
signs it and by the client that sends a request there, whatever is put into its query. The client
settles the path, and takes the URL unless it is too long, provided that it takes the place.
-/

namespace UrlSigning.Url

open Text

/-- The parts of a URL of the web with a place and a path, and without a fragment. -/
structure Parts.IsPlaced (p : Parts) : Prop where
  scheme : IsWeb p.scheme
  authority : p.authority ≠ ""
  ends : ∀ c ∈ p.authority.toList, endsAuthority c = false
  slash : p.path.toList.head? = some '/'
  starts : StartsNone p.path.toList
  kept : ∀ c ∈ p.authority.toList ++ p.path.toList, isDropped c = false
  fragment : p.fragment = ""

theorem cutAuthority_slashes {authority rest : List Char}
    (hends : ∀ c ∈ authority, endsAuthority c = false)
    (hrest : ∀ c ∈ rest.head?, endsAuthority c = true) :
    cutAuthority ('/' :: '/' :: (authority ++ rest)) = (authority, rest) := by
  have htake : rest.takeWhile (fun c => !endsAuthority c) = [] ∧
      rest.dropWhile (fun c => !endsAuthority c) = rest := by
    rcases rest with _ | ⟨c, rest⟩
    · exact ⟨rfl, rfl⟩
    · have hc := hrest c rfl
      simp [hc]
  have hall : ∀ c ∈ authority, (!endsAuthority c) = true := by
    intro c hc
    rw [hends c hc]
    rfl
  show ((authority ++ rest).takeWhile fun c => !endsAuthority c,
    (authority ++ rest).dropWhile fun c => !endsAuthority c) = _
  rw [List.takeWhile_append_of_pos hall, List.dropWhile_append_of_pos hall, htake.1, htake.2,
    List.append_nil]

theorem endsAuthority_of_slash {path : List Char} (h : path.head? = some '/') (more : List Char) :
    ∀ c ∈ (path ++ more).head?, endsAuthority c = true := by
  rcases path with _ | ⟨d, path⟩
  · cases h
  · cases h
    rintro c ⟨⟩
    rfl

/-- A URL of the web without a query is cut at its first colon. -/
theorem split_eq_partsOf_bare {scheme place : String} (hscheme : IsWeb scheme)
    (hplace : StartsNone place.toList) :
    split (scheme ++ ":" ++ place) = partsOf scheme place.toList "" := by
  have hclean : clean (scheme ++ ":" ++ place).toList =
      scheme.toList ++ ':' :: place.toList.filter fun c => !isDropped c := by
    have hlist : (scheme ++ ":" ++ place).toList = scheme.toList ++ ':' :: place.toList := by simp
    rw [hlist, clean_web hscheme, List.filter_cons_of_pos rfl]
  have hpath : StartsNone (cutAuthority (place.toList.filter fun c => !isDropped c)).2 :=
    hplace.of_subset fun c hc => (List.mem_filter.mp (cutAuthority_subset _ hc)).1
  unfold split
  rw [hclean, cutScheme_web hscheme]
  dsimp only
  rw [cutFirst_of_not_mem hpath.2, cutFirst_of_not_mem hpath.1]
  simp only [String.ofList_toList]
  rfl

/-- The client finds the place of a URL that shows nothing else. -/
theorem cut_place {scheme authority : String} (hscheme : IsWeb scheme)
    (hends : ∀ c ∈ authority.toList, endsAuthority c = false) :
    Target.cut (scheme ++ "://" ++ authority).toList =
      ⟨scheme.toList, authority.toList, [], none, none⟩ := by
  have hlist : (scheme ++ "://" ++ authority).toList =
      scheme.toList ++ ':' :: '/' :: '/' :: (authority.toList ++ []) := by
    simp
  unfold Target.cut
  rw [hlist, Target.takeScheme_web hscheme]
  dsimp only
  rw [cutAuthority_slashes hends (by simp)]
  rfl

namespace Parts.IsPlaced

variable {p : Parts} (h : p.IsPlaced)

include h

theorem placeOf_eq : placeOf p = "//" ++ p.authority ++ p.path := by
  have hauthority : p.authority.isEmpty = false := by simpa using h.authority
  have hslash : ['/'].isPrefixOf p.path.toList = true := by
    have hhead := h.slash
    rcases hpath : p.path.toList with _ | ⟨c, cs⟩ <;> rw [hpath] at hhead <;> cases hhead
    rfl
  simp [placeOf, hauthority, hslash]

theorem startsNone_place : StartsNone (placeOf p).toList := by
  exact startsNone_placeOf (startsNone_of_endsAuthority h.ends) h.starts

/-- The place and the path are found again, and the place is checked. -/
theorem partsOf_eq (query : String) :
    partsOf p.scheme (placeOf p).toList query =
      (checkBrackets p.authority.toList >>= fun _ => checkEquivalents p.authority.toList >>=
        fun _ => .ok { p with query := query }) := by
  have hlist : (placeOf p).toList = '/' :: '/' :: (p.authority.toList ++ p.path.toList) := by
    rw [h.placeOf_eq]
    simp
  have hkept : ((placeOf p).toList.filter fun c => !isDropped c) = (placeOf p).toList := by
    refine filter_of_kept fun c hc => ?_
    rw [hlist] at hc
    simp only [List.mem_cons] at hc
    rcases hc with rfl | rfl | hc
    · rfl
    · rfl
    · exact h.kept c hc
  have hcut : cutAuthority (placeOf p).toList = (p.authority.toList, p.path.toList) := by
    have hhead := endsAuthority_of_slash h.slash []
    rw [List.append_nil] at hhead
    rw [hlist, cutAuthority_slashes h.ends hhead]
  unfold partsOf
  rw [hkept, hcut, h.fragment]
  simp only [String.ofList_toList]
  rfl

theorem partsOf_eq_ok {query : String} {q : Parts}
    (hq : partsOf p.scheme (placeOf p).toList query = .ok q) : q = { p with query := query } := by
  rw [h.partsOf_eq] at hq
  obtain ⟨_, -, hq⟩ := bind_eq_ok.mp hq
  obtain ⟨_, -, hq⟩ := bind_eq_ok.mp hq
  exact (Except.ok.inj hq).symm

/-- The URL of parts with no query. -/
theorem join_bare : join { p with query := "" } = p.scheme ++ ":" ++ placeOf p := by
  have hne : p.scheme.isEmpty = false := by
    rcases h.scheme with hs | hs <;> rw [hs] <;> decide
  have hauthority : p.authority.isEmpty = false := by simpa using h.authority
  unfold join placeOf
  simp [hne, h.fragment, hauthority]

theorem partsOf_eq_of_checks (hbrackets : checkBrackets p.authority.toList = .ok ())
    (hequivalents : checkEquivalents p.authority.toList = .ok ()) (query : String) :
    partsOf p.scheme (placeOf p).toList query = .ok { p with query := query } := by
  rw [h.partsOf_eq, hbrackets, hequivalents]
  rfl

/-- A URL without a query is read in its parts if its place passes the checks. -/
theorem split_join_bare :
    split (join { p with query := "" }) =
      (checkBrackets p.authority.toList >>= fun _ => checkEquivalents p.authority.toList >>=
        fun _ => .ok { p with query := "" }) := by
  rw [h.join_bare, split_eq_partsOf_bare h.scheme h.startsNone_place, h.partsOf_eq]

/-- The parts of the URL are found again. -/
theorem split_join {query : String} {q : Parts} (hquery : '#' ∉ query.toList)
    (hkept : ∀ c ∈ query.toList, isDropped c = false)
    (hq : split (join { p with query := query }) = .ok q) : q = { p with query := query } := by
  by_cases hne : query = ""
  · subst hne
    rw [h.join_bare, split_eq_partsOf_bare h.scheme h.startsNone_place] at hq
    exact h.partsOf_eq_ok hq
  · rw [join_web h.scheme h.fragment hne,
      split_eq_partsOf h.scheme h.startsNone_place hquery hkept] at hq
    exact h.partsOf_eq_ok hq

/-! ### The client -/

theorem toList_join {query : String} (hne : query ≠ "") :
    (join { p with query := query }).toList =
      p.scheme.toList ++ ':' :: '/' :: '/' :: (p.authority.toList ++
        (p.path.toList ++ '?' :: query.toList)) := by
  rw [join_web h.scheme h.fragment hne, h.placeOf_eq]
  simp

theorem cut_join {query : String} (hquery : '#' ∉ query.toList) (hne : query ≠ "") :
    Target.cut (join { p with query := query }).toList =
      ⟨p.scheme.toList, p.authority.toList, p.path.toList, some query.toList, none⟩ := by
  have hnone : '#' ∉ p.path.toList ++ '?' :: query.toList := by
    simp [h.starts.2, hquery]
  unfold Target.cut
  rw [h.toList_join hne, Target.takeScheme_web h.scheme]
  dsimp only
  rw [cutAuthority_slashes h.ends (endsAuthority_of_slash h.slash _)]
  dsimp only
  rw [Target.cutOptional_of_not_mem hnone]
  dsimp only
  rw [Target.cutOptional_append h.starts.1]

/-- The URL holds no control characters if its place and its query hold none. -/
theorem isControl_join {query : String} (hne : query ≠ "")
    (hplace : ∀ c ∈ (p.scheme ++ "://" ++ p.authority).toList, Target.isControl c = false)
    (hpath : ∀ c ∈ p.path.toList, Target.isPathChar c = true)
    (hquery : ∀ c ∈ query.toList, Target.isQueryChar c = true) :
    ∀ c ∈ (join { p with query := query }).toList, Target.isControl c = false := by
  intro c hc
  rw [h.toList_join hne] at hc
  simp only [List.mem_append, List.mem_cons] at hc
  have hshown (hc : c ∈ p.scheme.toList ∨ c = ':' ∨ c = '/' ∨ c ∈ p.authority.toList) :
      Target.isControl c = false := by
    apply hplace c
    simp only [String.toList_append, List.mem_append]
    rcases hc with hc | rfl | rfl | hc
    · exact .inl (.inl hc)
    · exact .inl (.inr (by decide))
    · exact .inl (.inr (by decide))
    · exact .inr hc
  rcases hc with hc | rfl | rfl | rfl | hc | hc | rfl | hc
  · exact hshown (.inl hc)
  · rfl
  · rfl
  · rfl
  · exact hshown (.inr (.inr (.inr hc)))
  · exact (Target.of_isVisibleBut (hpath c hc)).1
  · rfl
  · exact (Target.of_isVisibleBut (hquery c hc)).1

/-- A client that takes the place takes the URL unless it is too long. It settles the path and keeps
the query, if each holds only characters that it can hold. -/
theorem ofUrl_join {query : String} {t : Target} (hne : query ≠ "")
    (hpath : ∀ c ∈ p.path.toList, Target.isPathChar c = true)
    (hquery : ∀ c ∈ query.toList, Target.isQueryChar c = true)
    (ht : Target.ofUrl (p.scheme ++ "://" ++ p.authority) = .ok t) :
    Target.ofUrl (join { p with query := query }) =
      if (join { p with query := query }).length ≤ Target.longest then
        .ok { t with
          path := String.ofList (Target.settle p.path.toList)
          query := some query }
      else .error .tooLong := by
  obtain ⟨_, hplace, htarget⟩ := bind_eq_ok.mp ht
  rw [cut_place h.scheme h.ends] at htarget
  have hcontrol := h.isControl_join hne (Target.checkCharacters_eq_ok.mp hplace).2 hpath hquery
  have hnone : '#' ∉ query.toList := fun hmem => absurd (hquery _ hmem) (by decide)
  split
  · next hlength =>
      rw [← String.length_toList] at hlength
      have hcheck := Target.checkCharacters_eq_ok.mpr ⟨hlength, hcontrol⟩
      refine bind_eq_ok.mpr ⟨(), hcheck, ?_⟩
      have hscheme : p.scheme.toList ≠ [] := by
        rcases h.scheme with hs | hs <;> rw [hs] <;> decide
      -- neither the settled path nor the query holds anything to encode
      have hsettled : Text.Percent.encodeChars Target.isPathChar (Target.settle p.path.toList) =
          Target.settle p.path.toList := by
        refine Percent.encodeChars_of_safe fun c hc => ?_
        have hchar : Target.isPathChar c = true := by
          rcases Target.mem_settle hc with rfl | hc
          · rfl
          · exact hpath c hc
        exact ⟨hchar, (Target.of_isVisibleBut hchar).2.1⟩
      have hkept : Percent.encodeChars Target.isQueryChar query.toList = query.toList :=
        Percent.encodeChars_of_safe fun c hc =>
          ⟨hquery c hc, (Target.of_isVisibleBut (hquery c hc)).2.1⟩
      rw [h.cut_join hnone hne, Target.ofPieces_of_place hscheme h.slash htarget, hsettled, hkept,
        String.ofList_toList]
  · next hlength =>
      rw [← String.length_toList] at hlength
      refine bind_eq_error.mpr (.inl ?_)
      rw [Target.checkCharacters_eq, if_pos (Nat.lt_of_not_le hlength)]

end Parts.IsPlaced

end UrlSigning.Url
