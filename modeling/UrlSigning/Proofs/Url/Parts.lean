import UrlSigning.Proofs.Checked
import UrlSigning.Proofs.Text.Cut
import UrlSigning.Url.Parts

/-!
# URLs whose query is changed

The query of a URL is what follows its first question mark, so a URL that ends with its query can be
given another one, or a longer one, and keeps all its other parts.
-/

namespace UrlSigning.Url

open Text

/-! ## Characters of the parts -/

/-- The text starts neither a query nor a fragment. -/
def StartsNone (cs : List Char) : Prop := '?' ∉ cs ∧ '#' ∉ cs

theorem StartsNone.of_subset {cs ds : List Char} (h : StartsNone cs) (hsub : ds ⊆ cs) :
    StartsNone ds :=
  ⟨fun hd => h.1 (hsub hd), fun hd => h.2 (hsub hd)⟩

theorem cutFirst_subset (sep : Char) (cs : List Char) : (cutFirst sep cs).1 ⊆ cs := by
  unfold cutFirst
  rcases h : cutFirst? sep cs with _ | ⟨a, b⟩
  · exact List.Subset.refl cs
  · rw [(cutFirst?_eq_some h).1]
    exact List.subset_append_left _ _

theorem cutAuthority_subset (cs : List Char) : (cutAuthority cs).2 ⊆ cs := by
  unfold cutAuthority
  split
  · intro c hc
    have hrest := (List.dropWhile_sublist _).subset hc
    exact List.mem_cons_of_mem _ (List.mem_cons_of_mem _ hrest)
  · exact List.Subset.refl cs

/-- An authority ends before the first character that ends it. -/
theorem endsAuthority_of_mem_cutAuthority {cs : List Char} {c : Char}
    (h : c ∈ (cutAuthority cs).1) : endsAuthority c = false := by
  unfold cutAuthority at h
  split at h
  · simpa using List.all_eq_true.mp List.all_takeWhile c h
  · cases h

/-- The authority and the path of a URL are cut out of what follows its scheme. -/
theorem split_eq_ok {url : String} {p : Parts} (h : split url = .ok p) :
    ∃ rest, p.authority.toList = (cutAuthority rest).1 ∧
      p.path.toList = (cutFirst '?' (cutFirst '#' (cutAuthority rest).2).1).1 := by
  unfold split at h
  dsimp only at h
  obtain ⟨_, -, h⟩ := bind_eq_ok.mp h
  obtain ⟨_, -, h⟩ := bind_eq_ok.mp h
  cases h
  exact ⟨_, String.toList_ofList, String.toList_ofList⟩

/-- The authority of a URL holds nothing that ends it. -/
theorem endsAuthority_of_split {url : String} {p : Parts} (h : split url = .ok p) {c : Char}
    (hc : c ∈ p.authority.toList) : endsAuthority c = false := by
  obtain ⟨rest, hauthority, -⟩ := split_eq_ok h
  rw [hauthority] at hc
  exact endsAuthority_of_mem_cutAuthority hc

/-- A text without the end of an authority starts neither a query nor a fragment. -/
theorem startsNone_of_endsAuthority {cs : List Char} (h : ∀ c ∈ cs, endsAuthority c = false) :
    StartsNone cs := by
  constructor
  · intro hmem
    cases h _ hmem
  · intro hmem
    cases h _ hmem

/-- Neither the authority nor the path of a URL starts a query or a fragment. -/
theorem startsNone_of_split {url : String} {p : Parts} (h : split url = .ok p) :
    StartsNone p.authority.toList ∧ StartsNone p.path.toList := by
  obtain ⟨rest, -, hpath⟩ := split_eq_ok h
  refine ⟨startsNone_of_endsAuthority fun c hc => endsAuthority_of_split h hc, ?_⟩
  rw [hpath]
  constructor
  · exact not_mem_cutFirst '?' _
  · intro hmem
    exact not_mem_cutFirst '#' _ (cutFirst_subset '?' _ hmem)

/-! ## The checks of an authority -/

/-- The authority of a URL passed the checks. -/
theorem checks_of_split {url : String} {p : Parts} (h : split url = .ok p) :
    checkBrackets p.authority.toList = .ok () ∧ checkEquivalents p.authority.toList = .ok () := by
  unfold split at h
  dsimp only at h
  obtain ⟨_, hbrackets, h⟩ := bind_eq_ok.mp h
  obtain ⟨_, hequivalents, h⟩ := bind_eq_ok.mp h
  cases h
  rw [String.toList_ofList]
  exact ⟨hbrackets, hequivalents⟩

theorem checkEquivalents_eq_ok_iff {authority : List Char} :
    checkEquivalents authority = .ok () ↔
      ∀ c ∈ authority, separatorEquivalents.contains c.toNat = false := by
  unfold checkEquivalents
  split
  · next hany => simpa using hany
  · next hany => simpa using hany

theorem checkBrackets_of_not_mem {authority : List Char} (hopen : '[' ∉ authority)
    (hclose : ']' ∉ authority) : checkBrackets authority = .ok () := by
  unfold checkBrackets
  simp [hopen, hclose]

/-- Brackets come in pairs. -/
theorem mem_iff_of_checkBrackets {authority : List Char} (h : checkBrackets authority = .ok ()) :
    '[' ∈ authority ↔ ']' ∈ authority := by
  unfold checkBrackets at h
  split at h
  · cases h
  · next hsame =>
      rw [bne_iff_ne, Decidable.not_not] at hsame
      rw [← List.contains_iff_mem, ← List.contains_iff_mem, hsame]

/-- Nothing of the host may stand in front of the brackets. -/
theorem checkBrackets_of_text_before {before inside : List Char} (hne : before ≠ [])
    (hopen : '[' ∉ before) (huser : '@' ∉ before ++ '[' :: inside) :
    checkBrackets (before ++ '[' :: inside) = .error .brackets := by
  unfold checkBrackets
  split
  · rfl
  · rw [if_neg (by simp), afterLast_of_not_mem huser]
    dsimp only
    rw [cutFirst?_append hopen]
    simp [hne]

/-- What is put in front of a host belongs to the host. -/
theorem hostAndPort_append {before authority : String}
    (huser : '@' ∉ before.toList ∧ '@' ∉ authority.toList)
    (hopen : '[' ∉ before.toList ∧ '[' ∉ authority.toList) (hport : ':' ∉ before.toList) :
    hostAndPort (before ++ authority) =
      (before.toList ++ (hostAndPort authority).1, (hostAndPort authority).2) := by
  have hplace : '[' ∉ before.toList ++ authority.toList := by simp [hopen]
  unfold hostAndPort
  rw [String.toList_append, afterLast_of_not_mem (by simp [huser]), afterLast_of_not_mem huser.2]
  dsimp only
  rw [cutFirst?_eq_none_iff.mpr hplace, cutFirst?_eq_none_iff.mpr hopen.2]
  exact cutFirst_append_of_not_mem hport _

/-! ## Cutting a URL with a query -/

theorem cutAuthority_of_ne {cs : List Char} (h : ∀ rest, cs ≠ '/' :: '/' :: rest) :
    cutAuthority cs = ([], cs) := by
  unfold cutAuthority
  split
  · exact absurd rfl (h _)
  · rfl

/-- What follows an authority begins with a character that ends it. -/
theorem endsAuthority_of_head?_cutAuthority {cs : List Char} (h : (cutAuthority cs).1 ≠ []) :
    ∀ c ∈ (cutAuthority cs).2.head?, endsAuthority c = true := by
  by_cases hslashes : ∃ rest, cs = '/' :: '/' :: rest
  · obtain ⟨rest, rfl⟩ := hslashes
    intro c hc
    have hhead := List.head?_dropWhile_not (fun c => !endsAuthority c) rest
    rw [show (rest.dropWhile fun c => !endsAuthority c).head? = some c from hc] at hhead
    simpa using hhead
  · rw [cutAuthority_of_ne fun rest hrest => hslashes ⟨rest, hrest⟩] at h
    exact absurd rfl h

/-- What is left of a text that begins with the end of an authority, without its query and its
fragment, is empty or begins with a slash. -/
theorem cutFirst_of_endsAuthority {cs : List Char} (h : ∀ c ∈ cs.head?, endsAuthority c = true) :
    (cutFirst '?' (cutFirst '#' cs).1).1 = [] ∨
      (cutFirst '?' (cutFirst '#' cs).1).1.head? = some '/' := by
  rcases cs with _ | ⟨c, cs⟩
  · exact .inl rfl
  have hc : c = '/' ∨ c = '?' ∨ c = '#' := by
    simpa [endsAuthority, or_assoc] using h c rfl
  rcases hc with rfl | rfl | rfl
  · rw [cutFirst_cons_of_ne (by decide)]
    dsimp only
    rw [cutFirst_cons_of_ne (by decide)]
    exact .inr rfl
  · rw [cutFirst_cons_of_ne (by decide)]
    dsimp only
    rw [cutFirst_cons_self]
    exact .inl rfl
  · rw [cutFirst_cons_self]
    exact .inl rfl

/-- The path of a URL with an authority is empty or begins with a slash. -/
theorem path_of_split {url : String} {p : Parts} (h : split url = .ok p)
    (hauthority : p.authority ≠ "") : p.path = "" ∨ p.path.toList.head? = some '/' := by
  obtain ⟨rest, hrest, hpath⟩ := split_eq_ok h
  have hne : (cutAuthority rest).1 ≠ [] := by
    intro hnil
    rw [hnil, String.toList_eq_nil_iff] at hrest
    exact hauthority hrest
  rw [← String.toList_eq_nil_iff, hpath]
  exact cutFirst_of_endsAuthority (endsAuthority_of_head?_cutAuthority hne)

/-- What follows a question mark does not change where the authority ends. -/
theorem cutAuthority_append (cs query : List Char) :
    cutAuthority (cs ++ '?' :: query) =
      ((cutAuthority cs).1, (cutAuthority cs).2 ++ '?' :: query) := by
  have hcut (rest : List Char) :
      ((rest ++ '?' :: query).takeWhile fun c => !endsAuthority c) =
          (rest.takeWhile fun c => !endsAuthority c) ∧
        ((rest ++ '?' :: query).dropWhile fun c => !endsAuthority c) =
          (rest.dropWhile fun c => !endsAuthority c) ++ '?' :: query := by
    induction rest with
    | nil => exact ⟨rfl, rfl⟩
    | cons c rest ih =>
        rw [List.cons_append, List.takeWhile_cons, List.takeWhile_cons, List.dropWhile_cons,
          List.dropWhile_cons, ih.1, ih.2]
        by_cases hc : endsAuthority c = true <;> simp [hc]
  by_cases h : ∃ rest, cs = '/' :: '/' :: rest
  · obtain ⟨rest, rfl⟩ := h
    exact Prod.ext (hcut rest).1 (hcut rest).2
  · have hne : ∀ rest, cs ≠ '/' :: '/' :: rest := fun rest hrest => h ⟨rest, hrest⟩
    have hne' : ∀ rest, cs ++ '?' :: query ≠ '/' :: '/' :: rest := by
      -- the question mark is no slash, so both slashes would be in front of it
      intro rest hrest
      rcases cs with _ | ⟨a, _ | ⟨b, cs⟩⟩
      · cases hrest
      · cases hrest
      · cases hrest
        exact h ⟨cs, rfl⟩
    rw [cutAuthority_of_ne hne, cutAuthority_of_ne hne']

/-- The scheme of a URL of the web. -/
def IsWeb (scheme : String) : Prop := scheme = "http" ∨ scheme = "https"

/-- The parts of a URL of the web, from what stands between the colon and the question mark. -/
def partsOf (scheme : String) (place : List Char) (query : String) : Except Fault Parts := do
  let (authority, path) := cutAuthority (place.filter fun c => !isDropped c)
  checkBrackets authority
  checkEquivalents authority
  return ⟨scheme, String.ofList authority, String.ofList path, query, ""⟩

theorem partsOf_query {scheme : String} {place : List Char} {query : String} {p : Parts}
    (h : partsOf scheme place query = .ok p) :
    p.query = query ∧
      ∀ other, partsOf scheme place other = .ok { p with query := other } := by
  unfold partsOf at h ⊢
  dsimp only at h ⊢
  obtain ⟨_, hbrackets, h⟩ := bind_eq_ok.mp h
  obtain ⟨_, hequivalents, h⟩ := bind_eq_ok.mp h
  cases h
  refine ⟨rfl, fun other => ?_⟩
  rw [hbrackets, hequivalents]
  rfl

theorem clean_web {scheme : String} (hscheme : IsWeb scheme) (cs : List Char) :
    clean (scheme.toList ++ cs) = scheme.toList ++ cs.filter fun c => !isDropped c := by
  rcases hscheme with rfl | rfl <;> rfl

theorem cutScheme_web {scheme : String} (hscheme : IsWeb scheme) (cs : List Char) :
    cutScheme (scheme.toList ++ ':' :: cs) = (scheme.toList, cs) := by
  unfold cutScheme
  rcases hscheme with rfl | rfl
  · rw [cutFirst?_append (by decide)]
    rfl
  · rw [cutFirst?_append (by decide)]
    rfl

theorem filter_of_kept {cs : List Char} (h : ∀ c ∈ cs, isDropped c = false) :
    (cs.filter fun c => !isDropped c) = cs := by
  rw [List.filter_eq_self]
  intro c hc
  rw [h c hc]
  rfl

/-- A URL of the web is cut at its first colon and at its first question mark. -/
theorem split_eq_partsOf {scheme place query : String} (hscheme : IsWeb scheme)
    (hplace : StartsNone place.toList) (hquery : '#' ∉ query.toList)
    (hkept : ∀ c ∈ query.toList, isDropped c = false) :
    split (scheme ++ ":" ++ place ++ "?" ++ query) = partsOf scheme place.toList query := by
  have hclean : clean (scheme ++ ":" ++ place ++ "?" ++ query).toList =
      scheme.toList ++ ':' :: ((place.toList.filter fun c => !isDropped c) ++
        '?' :: query.toList) := by
    have hlist : (scheme ++ ":" ++ place ++ "?" ++ query).toList =
        scheme.toList ++ ':' :: (place.toList ++ '?' :: query.toList) := by simp
    rw [hlist, clean_web hscheme, List.filter_cons_of_pos rfl, List.filter_append,
      List.filter_cons_of_pos rfl, filter_of_kept hkept]
  -- what is left of the place starts neither a query nor a fragment
  have hpath : StartsNone (cutAuthority (place.toList.filter fun c => !isDropped c)).2 :=
    hplace.of_subset fun c hc => (List.mem_filter.mp (cutAuthority_subset _ hc)).1
  unfold split
  rw [hclean, cutScheme_web hscheme]
  dsimp only
  rw [cutAuthority_append]
  dsimp only
  have hnone : '#' ∉ (cutAuthority (place.toList.filter fun c => !isDropped c)).2 ++
      '?' :: query.toList := by
    simp [hpath.2, hquery]
  rw [cutFirst_of_not_mem hnone, cutFirst_append hpath.1]
  simp only [String.ofList_toList]
  rfl

/-! ## Writing a URL with a query -/

/-- What a URL shows between its scheme and its query. -/
def placeOf (p : Parts) : String :=
  if !p.authority.isEmpty || !(['/', '/'].isPrefixOf p.path.toList) then
    "//" ++ p.authority ++
      (if !p.path.isEmpty && !(['/'].isPrefixOf p.path.toList) then "/" ++ p.path else p.path)
  else p.path

theorem startsNone_placeOf {p : Parts} (hauthority : StartsNone p.authority.toList)
    (hpath : StartsNone p.path.toList) : StartsNone (placeOf p).toList := by
  unfold placeOf
  split
  · split <;> simp [StartsNone, hauthority.1, hauthority.2, hpath.1, hpath.2]
  · exact hpath

/-- A URL of the web ends with its query. -/
theorem join_web {p : Parts} (hscheme : IsWeb p.scheme) (hfragment : p.fragment = "")
    {query : String} (hquery : query ≠ "") :
    join { p with query := query } = p.scheme ++ ":" ++ placeOf p ++ "?" ++ query := by
  have hslash : slashSchemes.contains p.scheme = true := by
    rcases hscheme with h | h <;> rw [h] <;> decide
  have hne : p.scheme.isEmpty = false := by
    rcases hscheme with h | h <;> rw [h] <;> decide
  have hq : query.isEmpty = false := by simpa using hquery
  unfold join placeOf
  simp only [hslash, hne, hq, hfragment, Bool.true_and, Bool.false_eq_true, if_false]
  simp [String.append_assoc]

/-- A URL of the web that is given a query can be read if what it shows of its other parts can. -/
theorem exists_split_join {url query : String} {p shown : Parts} (hurl : split url = .ok p)
    (hscheme : IsWeb p.scheme) (hfragment : p.fragment = "") (hne : query ≠ "")
    (hquery : '#' ∉ query.toList) (hkept : ∀ c ∈ query.toList, isDropped c = false)
    (hshown : partsOf p.scheme (placeOf p).toList "" = .ok shown) :
    ∃ joined, split (join { p with query := query }) = .ok joined := by
  obtain ⟨hauthority, hpath⟩ := startsNone_of_split hurl
  have hplace := startsNone_placeOf hauthority hpath
  rw [join_web hscheme hfragment hne, split_eq_partsOf hscheme hplace hquery hkept]
  exact ⟨_, (partsOf_query hshown).2 query⟩

end UrlSigning.Url
