import UrlSigning.Proofs.Text.Ascii
import UrlSigning.Proofs.Url.Parts

/-!
# URLs that were put together again

A URL that was split, given a query and joined is read again as far as it can be: whatever follows
its first question mark changes neither where its authority ends nor whether it can be split at all.
Nothing is asked of the scheme here, and the URL may have a fragment.
-/

namespace UrlSigning.Url

open Text

/-! ## What follows the first question mark -/

theorem clean_append (place rest : List Char) :
    clean (place ++ '?' :: rest) =
      clean place ++ '?' :: rest.filter fun c => !isDropped c := by
  have hmark : ('?' :: rest).dropWhile (fun c => c.toNat ≤ 32) = '?' :: rest := rfl
  unfold clean
  rw [List.dropWhile_append]
  split
  · next hempty =>
      rw [List.isEmpty_iff.mp hempty, hmark]
      rfl
  · rw [List.filter_append]
    rfl

/-- The name of a scheme does not go on after a character that it cannot hold. -/
theorem cutScheme_append {sep : Char} (hsep : isSchemeChar sep = false) (hcolon : sep ≠ ':')
    (place rest : List Char) :
    cutScheme (place ++ sep :: rest) =
      ((cutScheme place).1, (cutScheme place).2 ++ sep :: rest) := by
  unfold cutScheme
  rcases hplace : cutFirst? ':' place with _ | ⟨name, after⟩
  · have hnone : ':' ∉ place := cutFirst?_eq_none_iff.mp hplace
    rcases hcut : cutFirst? ':' (place ++ sep :: rest) with _ | ⟨name, after⟩
    · rfl
    · -- the separator comes before the colon, and is no character of a scheme
      have hmem : sep ∈ name := by
        obtain ⟨heq, -⟩ := cutFirst?_eq_some hcut
        rcases List.append_eq_append_iff.mp heq with ⟨more, rfl, hmore⟩ | ⟨more, rfl, hmore⟩
        · rcases more with _ | ⟨c, more⟩
          · cases hmore
            exact absurd rfl hcolon
          · cases hmore
            simp
        · exfalso
          rcases more with _ | ⟨c, more⟩
          · cases hmore
            exact hcolon rfl
          · cases hmore
            exact hnone (List.mem_append_right _ List.mem_cons_self)
      have hall : name.all isSchemeChar = false := by
        rw [Bool.eq_false_iff]
        intro hall
        have hchar := List.all_eq_true.mp hall sep hmem
        rw [hsep] at hchar
        cases hchar
      simp [hall]
  · obtain ⟨rfl, hname⟩ := cutFirst?_eq_some hplace
    rw [List.append_assoc, List.cons_append, cutFirst?_append hname]
    dsimp only
    split <;> simp

/-- The parts of a URL that goes on after a question mark. -/
def Parts.followedBy (p : Parts) (rest : String) : Parts :=
  let kept := rest.toList.filter fun c => !isDropped c
  { p with
    query := String.ofList (cutFirst '#' kept).1
    fragment := String.ofList (cutFirst '#' kept).2 }

theorem cutScheme_subset (cs : List Char) : (cutScheme cs).2 ⊆ cs := by
  unfold cutScheme
  split
  · next name after hcut =>
      split
      · rw [(cutFirst?_eq_some hcut).1]
        intro c hc
        exact List.mem_append_right _ (List.mem_cons_of_mem _ hc)
      · exact List.Subset.refl cs
  · exact List.Subset.refl cs

/-- What a URL shows after its scheme holds only characters of the URL. -/
theorem rest_subset (cs : List Char) : (cutAuthority (cutScheme (clean cs)).2).2 ⊆ cs := by
  intro c hc
  have hclean : c ∈ clean cs := cutScheme_subset _ (cutAuthority_subset _ hc)
  exact (List.dropWhile_sublist _).subset (List.mem_filter.mp hclean).1

/-- A place that starts neither a query nor a fragment has the same parts whatever follows it. -/
theorem split_append {place : String} (h : StartsNone place.toList) (rest : String) :
    split (place ++ "?" ++ rest) = (split place).map (·.followedBy rest) := by
  have hlist : (place ++ "?" ++ rest).toList = place.toList ++ '?' :: rest.toList := by simp
  have hpath := h.of_subset (rest_subset place.toList)
  unfold split
  rw [hlist, clean_append, cutScheme_append (by decide) (by decide)]
  dsimp only
  rw [cutAuthority_append]
  dsimp only
  -- the authority is the same, and so are the checks of it
  rcases checkBrackets (cutAuthority (cutScheme (clean place.toList)).2).1 with fault | _
  · rfl
  rcases hequivalents : checkEquivalents (cutAuthority (cutScheme (clean place.toList)).2).1
    with fault | _
  · rfl
  rw [cutFirst_append_of_not_mem hpath.2, cutFirst_of_not_mem hpath.2]
  dsimp only
  rw [cutFirst_of_not_mem hpath.1, cutFirst_cons_of_ne (by decide)]
  dsimp only
  rw [cutFirst_append hpath.1]
  rfl

theorem Parts.followedBy_of_kept (p : Parts) {query : String} (hquery : '#' ∉ query.toList)
    (hkept : ∀ c ∈ query.toList, isDropped c = false) :
    p.followedBy query = { p with query := query, fragment := "" } := by
  unfold Parts.followedBy
  dsimp only
  rw [filter_of_kept hkept, cutFirst_of_not_mem hquery]
  simp

theorem Parts.followedBy_fragment (p : Parts) {query fragment : String}
    (hquery : '#' ∉ query.toList) (hkept : ∀ c ∈ query.toList, isDropped c = false)
    (hfragment : ∀ c ∈ fragment.toList, isDropped c = false) :
    p.followedBy (query ++ ("#" ++ fragment)) =
      { p with query := query, fragment := fragment } := by
  have hlist : (query ++ ("#" ++ fragment)).toList = query.toList ++ '#' :: fragment.toList := by
    simp
  unfold Parts.followedBy
  dsimp only
  rw [hlist, List.filter_append, List.filter_cons_of_pos rfl, filter_of_kept hkept,
    filter_of_kept hfragment, cutFirst_append hquery]
  simp

theorem host?_of_split_error {url : String} {fault : Fault} (h : split url = .error fault) :
    host? url = .error fault := by
  rw [host?, h]
  rfl

/-- A URL that is made longer names the same host if the scheme and the authority stay. -/
theorem host?_append {url more : String} {p q : Parts}
    (hkept : ∀ c ∈ more.toList, isDropped c = false) (h : split url = .ok p)
    (hmore : split (url ++ more) = .ok q) (hscheme : q.scheme = p.scheme)
    (hauthority : q.authority = p.authority) : host? (url ++ more) = host? url := by
  have hdropped : (url ++ more).toList.any isDropped = url.toList.any isDropped := by
    have hnone : more.toList.any isDropped = false := by
      rw [List.any_eq_false]
      intro c hc
      rw [hkept c hc]
      decide
    rw [String.toList_append, List.any_append, hnone, Bool.or_false]
  have hhost : q.host? = p.host? := by rw [Parts.host?, Parts.host?, hauthority]
  have hport : q.port? = p.port? := by rw [Parts.port?, Parts.port?, hauthority]
  unfold host?
  rw [h, hmore]
  simp only [showsBrackets, hdropped, bind, Except.bind, hhost, hport, hscheme]
  rfl

/-! ## The parts of a URL -/

theorem toNat_lt_of_isSchemeChar {c : Char} (h : isSchemeChar c = true) : c.toNat < 128 := by
  simp only [isSchemeChar, Bool.or_eq_true, beq_iff_eq] at h
  rcases h with ((h | rfl) | rfl) | rfl
  · exact toNat_lt_of_isAlphanum h
  · decide
  · decide
  · decide

theorem isSchemeChar_of_toLower {c : Char} (h : isSchemeChar c = true) :
    c.toLower ≠ '?' ∧ c.toLower ≠ '#' :=
  forall_ascii
    (P := fun c => isSchemeChar c = true → c.toLower ≠ '?' ∧ c.toLower ≠ '#') (by decide)
    (toNat_lt_of_isSchemeChar h) h

theorem startsNone_cutScheme (cs : List Char) : StartsNone (cutScheme cs).1 := by
  have hnil : StartsNone [] := ⟨List.not_mem_nil, List.not_mem_nil⟩
  unfold cutScheme
  split
  · next name rest hcut =>
      split
      · next hname =>
          have hall := List.all_eq_true.mp (Bool.and_eq_true_iff.mp hname).2
          constructor
          · intro hmem
            obtain ⟨c, hc, heq⟩ := List.mem_map.mp hmem
            exact (isSchemeChar_of_toLower (hall c hc)).1 heq
          · intro hmem
            obtain ⟨c, hc, heq⟩ := List.mem_map.mp hmem
            exact (isSchemeChar_of_toLower (hall c hc)).2 heq
      · exact hnil
  · exact hnil

/-- The parts of a text, which are those of a URL if they pass the checks. -/
def cutParts (cs : List Char) : Parts :=
  let (scheme, rest) := cutScheme cs
  let (authority, rest) := cutAuthority rest
  let (rest, fragment) := cutFirst '#' rest
  let (path, query) := cutFirst '?' rest
  ⟨String.ofList scheme, String.ofList authority, String.ofList path, String.ofList query,
    String.ofList fragment⟩

theorem eq_cutParts_of_split {url : String} {p : Parts} (h : split url = .ok p) :
    p = cutParts (clean url.toList) := by
  unfold split at h
  dsimp only at h
  obtain ⟨_, -, h⟩ := bind_eq_ok.mp h
  obtain ⟨_, -, h⟩ := bind_eq_ok.mp h
  exact (Except.ok.inj h).symm

section

variable (cs : List Char)

theorem scheme_cutParts : (cutParts cs).scheme.toList = (cutScheme cs).1 :=
  String.toList_ofList

theorem authority_cutParts : (cutParts cs).authority.toList = (cutAuthority (cutScheme cs).2).1 :=
  String.toList_ofList

theorem path_cutParts : (cutParts cs).path.toList =
    (cutFirst '?' (cutFirst '#' (cutAuthority (cutScheme cs).2).2).1).1 :=
  String.toList_ofList

theorem query_cutParts : (cutParts cs).query.toList =
    (cutFirst '?' (cutFirst '#' (cutAuthority (cutScheme cs).2).2).1).2 :=
  String.toList_ofList

theorem fragment_cutParts : (cutParts cs).fragment.toList =
    (cutFirst '#' (cutAuthority (cutScheme cs).2).2).2 :=
  String.toList_ofList

end

theorem startsNone_scheme {url : String} {p : Parts} (h : split url = .ok p) :
    StartsNone p.scheme.toList := by
  rw [eq_cutParts_of_split h, scheme_cutParts]
  exact startsNone_cutScheme _

/-- A URL without a question mark has no query. -/
theorem query_of_split {url : String} {p : Parts} (h : split url = .ok p)
    (hmark : '?' ∉ url.toList) : p.query = "" := by
  have hnone : '?' ∉ (cutFirst '#' (cutAuthority (cutScheme (clean url.toList)).2).2).1 :=
    fun hmem => hmark (rest_subset _ (cutFirst_subset '#' _ hmem))
  rw [← String.toList_eq_nil_iff, eq_cutParts_of_split h, query_cutParts,
    cutFirst_of_not_mem hnone]

theorem kept_of_mem_clean {cs : List Char} {c : Char} (h : c ∈ clean cs) : isDropped c = false := by
  simpa using (List.mem_filter.mp h).2

theorem cutFirst_rest_subset (sep : Char) (cs : List Char) : (cutFirst sep cs).2 ⊆ cs := by
  unfold cutFirst
  rcases h : cutFirst? sep cs with _ | ⟨a, b⟩
  · exact List.nil_subset cs
  · rw [(cutFirst?_eq_some h).1]
    exact fun c hc => List.mem_append_right a (List.mem_cons_of_mem sep hc)

/-- Nothing of a fragment would be dropped. -/
theorem kept_fragment {url : String} {p : Parts} (h : split url = .ok p) {c : Char}
    (hc : c ∈ p.fragment.toList) : isDropped c = false := by
  rw [eq_cutParts_of_split h, fragment_cutParts] at hc
  exact kept_of_mem_clean
    (cutScheme_subset _ (cutAuthority_subset _ (cutFirst_rest_subset '#' _ hc)))

/-! ## Another query -/

/-- The parts of a URL up to its query. -/
def Parts.bare (p : Parts) : Parts := { p with query := "", fragment := "" }

/-- What a URL shows after its query. -/
def Parts.tail (p : Parts) : String := if p.fragment.isEmpty then "" else "#" ++ p.fragment

/-- A URL with a query goes on after the question mark with the query and the fragment. -/
theorem join_eq_bare {query : String} (h : query ≠ "") (p : Parts) :
    join { p with query := query } = join p.bare ++ "?" ++ (query ++ p.tail) := by
  have hquery : query.isEmpty = false := by simpa using h
  unfold join Parts.bare Parts.tail
  simp [hquery, String.append_assoc]

/-- A character of a URL without a query and a fragment is one of its other parts, or stands between
them. -/
theorem not_mem_join_bare {c : Char} {p : Parts} (hmark : c ≠ ':' ∧ c ≠ '/')
    (hscheme : c ∉ p.scheme.toList) (hauthority : c ∉ p.authority.toList)
    (hpath : c ∉ p.path.toList) : c ∉ (join p.bare).toList := by
  have hslash : c ∉ (if !p.path.isEmpty && !(['/'].isPrefixOf p.path.toList) then "/" ++ p.path
      else p.path).toList := by
    split <;> simp [hmark.2, hpath]
  unfold join Parts.bare
  simp only [String.toList_append, List.mem_append, not_or]
  refine ⟨⟨⟨?_, ?_⟩, by simp⟩, by simp⟩
  · split <;> simp [hscheme, hmark.1]
  · split
    · simp only [String.toList_append, List.mem_append, not_or]
      exact ⟨⟨by simp [hmark.2], hauthority⟩, hslash⟩
    · exact hpath

theorem startsNone_join_bare {url : String} {p : Parts} (h : split url = .ok p) :
    StartsNone (join p.bare).toList := by
  obtain ⟨hauthority, hpath⟩ := startsNone_of_split h
  have hscheme := startsNone_scheme h
  exact ⟨not_mem_join_bare (by decide) hscheme.1 hauthority.1 hpath.1,
    not_mem_join_bare (by decide) hscheme.2 hauthority.2 hpath.2⟩

theorem Parts.tail_of_no_fragment {p : Parts} (h : p.fragment = "") : p.tail = "" := by
  rw [tail, h]
  rfl

theorem kept_tail {url : String} {p : Parts} (h : split url = .ok p) :
    ∀ c ∈ p.tail.toList, isDropped c = false := by
  intro c hc
  unfold Parts.tail at hc
  split at hc
  · cases hc
  · rw [String.toList_append, List.mem_append] at hc
    rcases hc with hc | hc
    · rw [List.mem_singleton.mp hc]
      rfl
    · exact kept_fragment h hc

section

variable {url query more : String} {p joined : Parts}

/-- Whatever query a URL is given, it can be read just if its place can. -/
theorem error?_split_join (h : split url = .ok p) (hne : query ≠ "") :
    error? (split (join { p with query := query })) = error? (split (join p.bare)) := by
  rw [join_eq_bare hne, split_append (startsNone_join_bare h)]
  cases split (join p.bare) <;> rfl

/-- Whatever query a URL is given, the host that it names is that of its place. -/
theorem host?_join (h : split url = .ok p) (hne : query ≠ "")
    (hkept : ∀ c ∈ query.toList, isDropped c = false) :
    host? (join { p with query := query }) = host? (join p.bare) := by
  have hsplit := split_append (startsNone_join_bare h) (query ++ p.tail)
  rw [join_eq_bare hne, String.append_assoc]
  rw [String.append_assoc] at hsplit
  rcases hbare : split (join p.bare) with fault | shown <;> rw [hbare] at hsplit
  · rw [host?_of_split_error hsplit, host?_of_split_error hbare]
  · refine host?_append (fun c hc => ?_) hbare hsplit rfl rfl
    simp only [String.toList_append, List.mem_append] at hc
    rcases hc with hc | hc | hc
    · rw [List.mem_singleton.mp hc]
      rfl
    · exact hkept c hc
    · exact kept_tail h c hc

/-- A URL that was given a query and can be read keeps it, and its fragment. What is put at its end
goes to the query, or to the fragment if there is one. -/
theorem split_join_more (hurl : split url = .ok p) (hne : query ≠ "")
    (hquery : '#' ∉ (query ++ more).toList)
    (hkept : ∀ c ∈ (query ++ more).toList, isDropped c = false)
    (h : split (join { p with query := query }) = .ok joined) :
    joined.query = query ∧ joined.fragment = p.fragment ∧
      split (join { p with query := query } ++ more) =
        .ok (if p.fragment = "" then { joined with query := query ++ more }
          else { joined with fragment := p.fragment ++ more }) := by
  have hbare := startsNone_join_bare hurl
  have hq : '#' ∉ query.toList ∧ ∀ c ∈ query.toList, isDropped c = false := by
    rw [String.toList_append] at hquery hkept
    exact ⟨fun hmem => hquery (List.mem_append_left _ hmem),
      fun c hc => hkept c (List.mem_append_left _ hc)⟩
  have hm : ∀ c ∈ more.toList, isDropped c = false := fun c hc =>
    hkept c (by rw [String.toList_append]; exact List.mem_append_right _ hc)
  -- the joined URL, with and without more at its end, goes on after the place of the URL
  have hlong := split_append hbare (query ++ p.tail ++ more)
  rw [← String.append_assoc, ← join_eq_bare hne] at hlong
  rw [join_eq_bare hne, split_append hbare] at h
  rw [hlong]
  rcases hshown : split (join p.bare) with fault | shown <;> rw [hshown] at h
  · cases h
  obtain rfl : shown.followedBy (query ++ p.tail) = joined := Except.ok.inj h
  show _ ∧ _ ∧ Except.ok (shown.followedBy _) = _
  by_cases hfragment : p.fragment = ""
  · rw [if_pos hfragment, Parts.tail_of_no_fragment hfragment, String.append_empty,
      shown.followedBy_of_kept hq.1 hq.2, shown.followedBy_of_kept hquery hkept, hfragment]
    exact ⟨rfl, rfl, rfl⟩
  · -- the query ends where the fragment starts, whatever is put behind that
    have htail : p.tail = "#" ++ p.fragment := by
      rw [Parts.tail, if_neg (by simpa using hfragment)]
    rw [if_neg hfragment, htail, String.append_assoc, String.append_assoc,
      shown.followedBy_fragment hq.1 hq.2 fun c hc => kept_fragment hurl hc,
      shown.followedBy_fragment hq.1 hq.2]
    · exact ⟨rfl, rfl, rfl⟩
    · intro c hc
      rw [String.toList_append, List.mem_append] at hc
      rcases hc with hc | hc
      · exact kept_fragment hurl hc
      · exact hm c hc

/-- A URL without a fragment that was given a query can be given a longer one at its end. -/
theorem split_join_append (hurl : split url = .ok p) (hfragment : p.fragment = "")
    (hne : query ≠ "") (hquery : '#' ∉ (query ++ more).toList)
    (hkept : ∀ c ∈ (query ++ more).toList, isDropped c = false)
    (h : split (join { p with query := query }) = .ok joined) :
    joined.query = query ∧
      split (join { p with query := query } ++ more) = .ok { joined with query := query ++ more } ∧
      host? (join { p with query := query } ++ more) = host? (join { p with query := query }) := by
  obtain ⟨hjoined, -, hsplit⟩ := split_join_more hurl hne hquery hkept h
  rw [if_pos hfragment] at hsplit
  have hmore : ∀ c ∈ more.toList, isDropped c = false := fun c hc =>
    hkept c (by rw [String.toList_append]; exact List.mem_append_right _ hc)
  exact ⟨hjoined, hsplit, host?_append hmore h hsplit rfl rfl⟩

end

end UrlSigning.Url
