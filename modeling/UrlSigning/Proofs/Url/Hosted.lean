import UrlSigning.Proofs.Url.Placed
import UrlSigning.Proofs.Url.Rejoined

/-!
# URLs that name a host

A URL of the web whose place names a host keeps the place whatever path, query and fragment follow
it, so it can be read, and be read again after its query was changed.
-/

namespace UrlSigning.Url

open Text

/-- The authority names a host, perhaps with a port, and can stand in a URL. -/
structure NamesHost (authority : String) : Prop where
  ends : ∀ c ∈ authority.toList, endsAuthority c = false
  kept : ∀ c ∈ authority.toList, isDropped c = false
  brackets : checkBrackets authority.toList = .ok ()
  equivalents : checkEquivalents authority.toList = .ok ()
  host : (hostAndPort authority).1 ≠ []
  port : ∃ port, (Parts.mk "" authority "" "" "").port? = .ok port

theorem NamesHost.ne_empty {authority : String} (h : NamesHost authority) : authority ≠ "" := by
  rintro rfl
  exact h.host (by decide)

/-- The parts of a URL of the web that names a host. -/
structure Parts.IsHosted (p : Parts) : Prop where
  scheme : IsWeb p.scheme
  authority : NamesHost p.authority
  path : p.path = "" ∨ p.path.toList.head? = some '/'

theorem Parts.IsHosted.withQuery {p : Parts} (h : p.IsHosted) (query : String) :
    Parts.IsHosted { p with query := query } :=
  ⟨h.scheme, h.authority, h.path⟩

/-- Whatever follows the place, it begins with what ends an authority, or is nothing. -/
def Follows (rest : List Char) : Prop := ∀ c ∈ rest.head?, endsAuthority c = true

theorem follows_filter {rest : List Char} (h : Follows rest) :
    Follows (rest.filter fun c => !isDropped c) := by
  rcases rest with _ | ⟨c, rest⟩
  · exact h
  · have hc : endsAuthority c = true := h c rfl
    have hkept : isDropped c = false := by
      simp only [endsAuthority, Bool.or_eq_true, beq_iff_eq] at hc
      rcases hc with (rfl | rfl) | rfl <;> decide
    rw [List.filter_cons_of_pos (by rw [hkept]; rfl)]
    rintro d ⟨⟩
    exact hc

/-- A URL that names a host is read with its place as it is. -/
theorem split_web {scheme authority rest : String} (hscheme : IsWeb scheme)
    (hauthority : NamesHost authority) (hrest : Follows rest.toList) :
    ∃ q, split (scheme ++ "://" ++ authority ++ rest) = .ok q ∧ q.scheme = scheme ∧
      q.authority = authority ∧ q.IsHosted := by
  have hlist : (scheme ++ "://" ++ authority ++ rest).toList =
      scheme.toList ++ ':' :: '/' :: '/' :: (authority.toList ++ rest.toList) := by
    simp
  have hclean : clean (scheme ++ "://" ++ authority ++ rest).toList =
      scheme.toList ++ ':' :: '/' :: '/' ::
        (authority.toList ++ rest.toList.filter fun c => !isDropped c) := by
    rw [hlist, clean_web hscheme, List.filter_cons_of_pos rfl, List.filter_cons_of_pos rfl,
      List.filter_cons_of_pos rfl, List.filter_append, filter_of_kept hauthority.kept]
  have hfollows := follows_filter hrest
  unfold split
  rw [hclean, cutScheme_web hscheme]
  dsimp only
  rw [cutAuthority_slashes hauthority.ends hfollows]
  dsimp only
  rw [hauthority.brackets, hauthority.equivalents]
  refine ⟨_, rfl, by simp, by simp, ?_⟩
  have hpath := cutFirst_of_endsAuthority hfollows
  refine ⟨by simpa using hscheme, by simpa using hauthority, ?_⟩
  dsimp only
  rw [← String.toList_eq_nil_iff, String.toList_ofList]
  exact hpath

namespace Parts.IsHosted

variable {p : Parts} (h : p.IsHosted)

include h

/-- The URL of parts that name a host shows the place after its scheme. -/
theorem exists_join_eq : ∃ rest, Follows rest.toList ∧
    join p = p.scheme ++ "://" ++ p.authority ++ rest := by
  have hscheme : p.scheme.isEmpty = false := by
    rcases h.scheme with hs | hs <;> rw [hs] <;> decide
  have hauthority : p.authority.isEmpty = false := by simpa using h.authority.ne_empty
  have hpath : (!p.path.isEmpty && !(['/'].isPrefixOf p.path.toList)) = false := by
    rcases h.path with hempty | hslash
    · rw [hempty]
      rfl
    · rcases hp : p.path.toList with _ | ⟨c, cs⟩ <;> rw [hp] at hslash <;> cases hslash
      simp
  have htail : Follows (p.tail).toList := by
    unfold tail
    split
    · rintro c ⟨⟩
    · rw [String.toList_append]
      rintro c ⟨⟩
      rfl
  have hquery : Follows ((if p.query.isEmpty then "" else "?" ++ p.query) ++ p.tail).toList := by
    split
    · simpa using htail
    · simp only [String.toList_append]
      rintro c ⟨⟩
      rfl
  refine ⟨p.path ++ ((if p.query.isEmpty then "" else "?" ++ p.query) ++ p.tail), ?_, ?_⟩
  · rw [String.toList_append]
    rcases h.path with hempty | hslash
    · rw [hempty]
      exact hquery
    · exact endsAuthority_of_slash hslash _
  · unfold join tail
    have hmark (s : String) : ":" ++ ("//" ++ s) = "://" ++ s := by rw [← String.append_assoc]; rfl
    simp [hscheme, hauthority, hpath, hmark, String.append_assoc]

/-- The URL of parts that name a host is read again, and names the host again. -/
theorem exists_split : ∃ q, split (join p) = .ok q ∧ q.IsHosted := by
  obtain ⟨rest, hrest, hjoin⟩ := h.exists_join_eq
  obtain ⟨q, hq, -, -, hhosted⟩ := split_web h.scheme h.authority hrest
  exact ⟨q, hjoin ▸ hq, hhosted⟩

end Parts.IsHosted

theorem exists_host? {url : String} {p : Parts} (h : p.IsHosted) (hurl : split url = .ok p) :
    ∃ host, host? url = .ok (some host) := by
  have hhost : ∃ name, p.host? = some name := by
    have hne : (hostAndPort p.authority).1.isEmpty = false := by simpa using h.authority.host
    unfold Parts.host?
    dsimp only
    rw [hne]
    rcases cutFirst? '%' (hostAndPort p.authority).1 with _ | ⟨name, zone⟩
    · exact ⟨_, rfl⟩
    · exact ⟨_, rfl⟩
  obtain ⟨name, hname⟩ := hhost
  obtain ⟨port, hport⟩ := h.authority.port
  have hport' : p.port? = .ok port := hport
  unfold host?
  rw [hurl]
  show ∃ host, (p.port? >>= _) = _
  rw [hport', hname]
  dsimp only [bind, Except.bind]
  -- only a port that is not the one of the scheme is shown
  rcases port with _ | port
  · exact ⟨_, rfl⟩
  · dsimp only
    split
    · exact ⟨_, rfl⟩
    · exact ⟨_, rfl⟩

end UrlSigning.Url
