import UrlSigning.Proofs.Checked
import UrlSigning.Proofs.Text.Cut
import UrlSigning.Proofs.Text.Percent
import UrlSigning.Proofs.Url.Parts
import UrlSigning.Url.Target

/-!
# Where a client sends a request

A client reads a URL in a way of its own. Of a URL of the web that holds only characters which its
parts can hold, it finds the same parts that are signed, and takes the segments of points out of the
path. So the path that it sends is the one in the URL just when there are no such segments.
-/

namespace UrlSigning.Url.Target

open Text

/-! ## Segments of points -/

/-- The segments that a client takes out of a path. -/
def IsPoints (segment : List Char) : Prop := segment = ['.'] ∨ segment = ['.', '.']

instance : DecidablePred IsPoints := fun segment =>
  inferInstanceAs (Decidable (segment = ['.'] ∨ segment = ['.', '.']))

/-- The path has no segments of points. -/
def IsSettled (path : List Char) : Prop := ∀ segment ∈ cutAll '/' path, ¬IsPoints segment

instance : DecidablePred IsSettled := fun path =>
  inferInstanceAs (Decidable (∀ segment ∈ cutAll '/' path, ¬IsPoints segment))

section

variable {kept segments : List (List Char)}

theorem settleSegments_of_not_points (h : ∀ segment ∈ segments, ¬IsPoints segment) :
    settleSegments kept segments = kept.reverse ++ segments := by
  induction segments generalizing kept with
  | nil => exact (List.append_nil _).symm
  | cons segment rest ih =>
      have hpoints := h segment List.mem_cons_self
      rw [settleSegments, if_neg fun heq => hpoints (.inl heq),
        if_neg fun heq => hpoints (.inr heq),
        ih fun s hs => h s (List.mem_cons_of_mem segment hs), List.reverse_cons, List.append_assoc]
      rfl

theorem mem_settleSegments {segment : List Char} (h : segment ∈ settleSegments kept segments) :
    segment ∈ kept ∨ segment ∈ segments := by
  induction segments generalizing kept with
  | nil => exact .inl (List.mem_reverse.mp h)
  | cons first rest ih =>
      unfold settleSegments at h
      split at h
      · exact (ih h).imp_right (List.mem_cons_of_mem first)
      · split at h
        · refine (ih h).imp (fun hkept => ?_) (List.mem_cons_of_mem first)
          split at hkept
          · exact hkept
          · exact List.mem_of_mem_drop hkept
        · rcases ih h with hkept | hrest
          · rcases List.mem_cons.mp hkept with rfl | hkept
            · exact .inr List.mem_cons_self
            · exact .inl hkept
          · exact .inr (List.mem_cons_of_mem first hrest)

/-- Two points take away at most one of the segments that were kept. -/
theorem length_afterTwoPoints_le (kept : List (List Char)) :
    (if kept = [[]] then kept else kept.drop 1).length ≤ kept.length := by
  split <;> simp

theorem length_settleSegments_le (kept segments : List (List Char)) :
    (settleSegments kept segments).length ≤ kept.length + segments.length := by
  induction segments generalizing kept with
  | nil => exact Nat.le_of_eq List.length_reverse
  | cons segment rest ih =>
      rw [List.length_cons]
      unfold settleSegments
      split
      · have h := ih kept
        omega
      · split
        · have h := ih (if kept = [[]] then kept else kept.drop 1)
          have hkept := length_afterTwoPoints_le kept
          omega
        · have h := ih (segment :: kept)
          rw [List.length_cons] at h
          omega

/-- A segment of points is lost. -/
theorem length_settleSegments_lt (kept : List (List Char))
    (h : ∃ segment ∈ segments, IsPoints segment) :
    (settleSegments kept segments).length < kept.length + segments.length := by
  induction segments generalizing kept with
  | nil => simp at h
  | cons segment rest ih =>
      rw [List.length_cons]
      unfold settleSegments
      split
      · have hle := length_settleSegments_le kept rest
        omega
      · split
        · have hle := length_settleSegments_le (if kept = [[]] then kept else kept.drop 1) rest
          have hkept := length_afterTwoPoints_le kept
          omega
        · next hone htwo =>
            -- the segment of points is among the others
            obtain ⟨points, hmem, hpoints⟩ := h
            have hrest : ∃ segment ∈ rest, IsPoints segment := by
              rcases List.mem_cons.mp hmem with rfl | hmem
              · exact absurd hpoints (not_or.mpr ⟨hone, htwo⟩)
              · exact ⟨points, hmem, hpoints⟩
            have hlt := ih (segment :: kept) hrest
            rw [List.length_cons] at hlt
            omega

end

/-- A path is left as it is just when it has no segments of points. -/
theorem settle_eq_self_iff {path : List Char} : settle path = path ↔ IsSettled path := by
  constructor
  · intro h segment hsegment hpoints
    have hlt : (settleSegments [] (cutAll '/' path)).length < (cutAll '/' path).length := by
      simpa using length_settleSegments_lt [] ⟨segment, hsegment, hpoints⟩
    have hne : settleSegments [] (cutAll '/' path) ≠ [] := by
      intro hnil
      rw [settle, hnil] at h
      subst h
      cases hnil
    -- the path is made of the segments that are left, so these are the segments of the path
    have hcut : cutAll '/' (settle path) = settleSegments [] (cutAll '/' path) := by
      refine cutAll_joinAll hne fun part hpart => ?_
      rcases mem_settleSegments hpart with hkept | hmem
      · cases hkept
      · exact not_mem_of_mem_cutAll hmem
    rw [h] at hcut
    rw [← hcut] at hlt
    exact Nat.lt_irrefl _ hlt
  · intro h
    rw [settle, settleSegments_of_not_points h]
    exact joinAll_cutAll '/' path

theorem ofList_settle_eq_iff {path : String} :
    String.ofList (settle path.toList) = path ↔ IsSettled path.toList := by
  rw [← settle_eq_self_iff, ← String.toList_inj, String.toList_ofList]

/-! ## Characters -/

/-- A settled path holds no characters that the path does not hold. -/
theorem mem_settle {path : List Char} {c : Char} (h : c ∈ settle path) : c = '/' ∨ c ∈ path := by
  rcases mem_joinAll h with rfl | ⟨part, hpart, hc⟩
  · exact .inl rfl
  · rcases mem_settleSegments hpart with hkept | hmem
    · cases hkept
    · exact .inr (mem_of_mem_cutAll hmem hc)

/-- The characters that no URL can hold. -/
def isControl (c : Char) : Bool := c.toNat < 0x20 || c.toNat = 0x7F

theorem checkCharacters_eq (cs : List Char) :
    checkCharacters cs =
      if longest < cs.length then .error .tooLong
      else
        match cs.findIdx? isControl with
        | some place => .error (.control (cs.getD place ' ') place)
        | none => .ok () := rfl

theorem checkCharacters_eq_ok {cs : List Char} :
    checkCharacters cs = .ok () ↔ cs.length ≤ longest ∧ ∀ c ∈ cs, isControl c = false := by
  rw [checkCharacters_eq]
  by_cases hlength : longest < cs.length
  · rw [if_pos hlength]
    constructor
    · intro h
      cases h
    · intro h
      exact absurd h.1 (Nat.not_le_of_lt hlength)
  rw [if_neg hlength]
  rcases hfind : cs.findIdx? isControl with _ | place
  · have hnone := List.findIdx?_eq_none_iff.mp hfind
    exact ⟨fun _ => ⟨Nat.le_of_not_lt hlength, hnone⟩, fun _ => rfl⟩
  · obtain ⟨hplace, hcontrol, -⟩ := List.findIdx?_eq_some_iff_getElem.mp hfind
    constructor
    · intro h
      cases h
    · intro h
      rw [h.2 _ (List.getElem_mem hplace)] at hcontrol
      cases hcontrol

/-- What can be seen is no control character, and is one of ASCII. -/
theorem of_isVisibleBut {excluded : List Char} {c : Char} (h : isVisibleBut excluded c = true) :
    isControl c = false ∧ c.toNat < 128 ∧ c ∉ excluded := by
  simp only [isVisibleBut, Bool.and_eq_true, decide_eq_true_eq, Bool.not_eq_true',
    List.contains_eq_mem, decide_eq_false_iff_not] at h
  obtain ⟨⟨hlow, hhigh⟩, hexcluded⟩ := h
  refine ⟨?_, by omega, hexcluded⟩
  rw [isControl, Bool.or_eq_false_iff, decide_eq_false_iff_not, decide_eq_false_iff_not]
  omega

theorem isDropped_of_isControl {c : Char} (h : isControl c = false) : isDropped c = false := by
  rw [isDropped, Bool.or_eq_false_iff, Bool.or_eq_false_iff, beq_eq_false_iff_ne,
    beq_eq_false_iff_ne, beq_eq_false_iff_ne]
  refine ⟨⟨?_, ?_⟩, ?_⟩ <;> rintro rfl <;> revert h <;> decide

/-! ## Cutting -/

theorem takeScheme_web {scheme : String} (hscheme : IsWeb scheme) (cs : List Char) :
    takeScheme (scheme.toList ++ ':' :: cs) = (scheme.toList, cs) := by
  rcases hscheme with rfl | rfl <;> rfl

theorem cutOptional_append {sep : Char} {a : List Char} (h : sep ∉ a) (b : List Char) :
    cutOptional sep (a ++ sep :: b) = (a, some b) := by
  rw [cutOptional, cutFirst?_append h]

theorem cutOptional_of_not_mem {sep : Char} {cs : List Char} (h : sep ∉ cs) :
    cutOptional sep cs = (cs, none) := by
  rw [cutOptional, cutFirst?_eq_none_iff.mpr h]

/-! ## Places -/

/-- A place that the client takes, it takes with any path that begins with a slash and with any
query. -/
theorem ofPieces_of_place {scheme authority path query : List Char} {t : Target}
    (hscheme : scheme ≠ []) (hslash : path.head? = some '/')
    (h : ofPieces ⟨scheme, authority, [], none, none⟩ = .ok t) :
    ofPieces ⟨scheme, authority, path, some query, none⟩ =
      .ok { t with
        path := String.ofList (Percent.encodeChars isPathChar (settle path))
        query := some (String.ofList (Percent.encodeChars isQueryChar query)) } := by
  have hfull : (!scheme.isEmpty) = true := by simpa using hscheme
  unfold ofPieces at h ⊢
  dsimp only at h ⊢
  obtain ⟨host, hhost, h⟩ := bind_eq_ok.mp h
  obtain ⟨port, hport, h⟩ := bind_eq_ok.mp h
  obtain ⟨_, -, h⟩ := bind_eq_ok.mp h
  have hpath (hasPlace : Bool) : checkPath path true hasPlace = .ok () := by
    simp [checkPath, hslash]
  cases h
  rw [hhost, hport, hfull]
  refine bind_eq_ok.mpr ⟨host, rfl, bind_eq_ok.mpr ⟨port, rfl, ?_⟩⟩
  exact bind_eq_ok.mpr ⟨(), hpath _, rfl⟩

end UrlSigning.Url.Target
