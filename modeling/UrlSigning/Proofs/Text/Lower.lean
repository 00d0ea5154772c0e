import UrlSigning.Proofs.Text.Case
import UrlSigning.Text.Blank

/-!
# Lower case twice

The lower case of a text in lower case is the text itself, also where a final sigma was written: no
capital is left whose lower case depends on its place. Lower case brings no blanks into a text, so
that a text without blanks at its ends has none there in lower case either.
-/

namespace UrlSigning.Text

/-! ## One letter -/

/-- Whether the code points of the span are characters in lower case, and none of them is blank. -/
def Span.settledLower (span : Span) (alternate : Bool) : Bool :=
  (Nat.blt span.last 0xD800 || Nat.blt 0xDFFF span.first && Nat.blt span.last 0x110000) &&
    (Nat.blt span.last 65 || Nat.blt 90 span.first) &&
    (Nat.blt span.last 0x130 || Nat.blt 0x130 span.first) &&
    (Nat.blt span.last 0x3A3 || Nat.blt 0x3A3 span.first) &&
    blankSpans.all (fun b => Nat.blt span.last b.first || Nat.blt b.last span.first) &&
    lowerShifts.all (Shift.misses span alternate)

theorem settledLower_of_shift :
    (lowerShifts.all fun s => s.target.settledLower s.alternates) = true := by
  decide +kernel

theorem nonneg_of_lowerShift : ∀ s ∈ lowerShifts, 0 ≤ s.first + s.distance := by
  decide +kernel

/-- The letter is in lower case wherever it stands. -/
structure IsLowered (c : Char) : Prop where
  noSigma : c ≠ '\u03a3'
  fixed : lowerChar c = [c]

theorem isLowered_of_ascii {c : Char} (h : c.toNat < 128) (hlower : c.toLower = c) :
    IsLowered c := by
  refine ⟨?_, ?_⟩
  · rintro rfl
    revert h
    decide
  · rw [lowerChar, if_pos h, hlower]

theorem isLowered_of_settled {span : Span} {alternate : Bool} {n : Nat}
    (h : span.settledLower alternate = true) (hfirst : span.first ≤ n) (hlast : n ≤ span.last)
    (hstep : alternate = true → (n - span.first) % 2 = 0) :
    IsLowered (Char.ofNat n) ∧ isBlank (Char.ofNat n) = false := by
  simp only [Span.settledLower, Bool.and_eq_true, Bool.or_eq_true, Nat.blt_eq,
    List.all_eq_true] at h
  obtain ⟨⟨⟨⟨⟨hvalid, hcapital⟩, hdotted⟩, hsigma⟩, hblanks⟩, hshifts⟩ := h
  have hn : (Char.ofNat n).toNat = n := by
    refine toNat_ofNat_of_isValidChar ?_
    unfold Nat.isValidChar
    omega
  have hne {d : Char} (hd : d.toNat < span.first ∨ span.last < d.toNat) : Char.ofNat n ≠ d := by
    rintro rfl
    omega
  constructor
  · by_cases hascii : n < 128
    · have hlower : ∀ m < 128, ¬(65 ≤ m ∧ m ≤ 90) → (Char.ofNat m).toLower = Char.ofNat m := by
        decide
      exact isLowered_of_ascii (by omega) (hlower n hascii (by omega))
    · refine ⟨hne ?_, ?_⟩
      · exact hsigma.symm
      · rw [lowerChar, if_neg (by omega), if_neg (hne (d := '\u0130') hdotted.symm),
          shiftBy_of_misses hshifts (by omega) (by omega) (by rwa [hn])]
  · exact inSpans_eq_false hblanks (by rwa [hn]) (by rwa [hn])

/-- A letter in lower case that some other letter became; none becomes blank. -/
structure IsLoweredFrom (c d : Char) : Prop extends IsLowered d where
  blank : isBlank d = true → isBlank c = true

theorem IsLoweredFrom.not_blank {c d : Char} (h : IsLoweredFrom c d) (hc : isBlank c = false) :
    isBlank d = false := by
  rw [Bool.eq_false_iff]
  intro hd
  rw [h.blank hd] at hc
  cases hc

theorem IsLowered.isLoweredFrom {d : Char} (h : IsLowered d) (hblank : isBlank d = false)
    (c : Char) : IsLoweredFrom c d :=
  ⟨h, fun hd => absurd (hblank ▸ hd) (by decide)⟩

/-- A letter that no run of the table moves is in lower case, and so is one that a run moved. -/
theorem isLoweredFrom_shiftBy {c : Char} (hascii : ¬c.toNat < 128) (hdotted : c ≠ '\u0130')
    (hsigma : c ≠ '\u03a3') : IsLoweredFrom c (shiftBy lowerShifts c) := by
  rcases hfind : lowerShifts.find? (·.moves c) with _ | s
  · have hstays : shiftBy lowerShifts c = c := by rw [shiftBy, hfind]
    have hfixed : lowerChar c = [c] := by rw [lowerChar, if_neg hascii, if_neg hdotted, hstays]
    rw [hstays]
    exact ⟨⟨hsigma, hfixed⟩, id⟩
  · have hs := List.mem_of_find?_eq_some hfind
    have hmoves : s.moves c = true := List.find?_some (p := (Shift.moves · c)) hfind
    obtain ⟨hfirst, hlast, hstep⟩ := Shift.target_of_moves hmoves (nonneg_of_lowerShift s hs)
    obtain ⟨hlowered, hblank⟩ := isLowered_of_settled
      (List.all_eq_true.mp settledLower_of_shift s hs) hfirst hlast hstep
    have hmoved : shiftBy lowerShifts c = Char.ofNat (c.toNat + s.distance).toNat := by
      rw [shiftBy, hfind]
    rw [hmoved]
    exact hlowered.isLoweredFrom hblank c

theorem isLoweredFrom_of_mem {c d : Char} (hsigma : c ≠ '\u03a3') (h : d ∈ lowerChar c) :
    IsLoweredFrom c d := by
  unfold lowerChar at h
  split at h
  · next hascii =>
      obtain rfl := List.mem_singleton.mp h
      obtain ⟨hlower, htwice⟩ := toLower_ascii hascii
      exact ⟨isLowered_of_ascii hlower htwice, forall_ascii
        (P := fun c => isBlank c.toLower = true → isBlank c = true) (by decide) hascii⟩
  · next hascii =>
      split at h
      · -- the dotted capital becomes two letters
        simp only [List.mem_cons, List.not_mem_nil, or_false] at h
        rcases h with rfl | rfl
        · exact IsLowered.isLoweredFrom ⟨by decide, by decide⟩ (by decide) c
        · exact IsLowered.isLoweredFrom ⟨by decide, by decide +kernel⟩ (by decide) c
      · next hdotted =>
          obtain rfl := List.mem_singleton.mp h
          exact isLoweredFrom_shiftBy hascii hdotted hsigma

theorem lowerChar_ne_nil (c : Char) : lowerChar c ≠ [] := by
  unfold lowerChar
  split
  · exact List.cons_ne_nil _ _
  · split <;> exact List.cons_ne_nil _ _

/-! ## A text -/

/-- The first letter becomes one or more letters in lower case, and the rest follows. -/
theorem lowerFrom_cons (afterCased : Bool) (c : Char) (rest : List Char) :
    ∃ ds afterCased', lowerFrom afterCased (c :: rest) = ds ++ lowerFrom afterCased' rest ∧
      ds ≠ [] ∧ ∀ d ∈ ds, IsLoweredFrom c d := by
  rw [lowerFrom]
  refine ⟨_, _, rfl, ?_, ?_⟩
  · split
    · exact List.cons_ne_nil _ _
    · exact lowerChar_ne_nil c
  · intro d hd
    split at hd
    · obtain rfl := List.mem_singleton.mp hd
      split
      · exact IsLowered.isLoweredFrom ⟨by decide, by decide +kernel⟩ (by decide) c
      · exact IsLowered.isLoweredFrom ⟨by decide, by decide +kernel⟩ (by decide) c
    · next hsigma => exact isLoweredFrom_of_mem hsigma hd

theorem isLowered_of_mem {cs : List Char} {afterCased : Bool} {d : Char}
    (h : d ∈ lowerFrom afterCased cs) : IsLowered d := by
  induction cs generalizing afterCased with
  | nil => cases h
  | cons c cs ih =>
      obtain ⟨ds, afterCased', hds, -, hlowered⟩ := lowerFrom_cons afterCased c cs
      rw [hds] at h
      rcases List.mem_append.mp h with h | h
      · exact (hlowered d h).toIsLowered
      · exact ih h

theorem lowerFrom_of_isLowered {cs : List Char} (h : ∀ c ∈ cs, IsLowered c) (afterCased : Bool) :
    lowerFrom afterCased cs = cs := by
  induction cs generalizing afterCased with
  | nil => rfl
  | cons c cs ih =>
      have hc := h c List.mem_cons_self
      rw [lowerFrom, if_neg hc.noSigma, hc.fixed, ih fun d hd => h d (List.mem_cons_of_mem c hd)]
      rfl

/-- The lower case of a text in lower case is the text. -/
theorem lower_lower (s : String) : lower (lower s) = lower s := by
  rw [lower, lower, String.toList_ofList, lowerFrom_of_isLowered fun _ hc => isLowered_of_mem hc]

/-! ## Blanks at the ends -/

/-- The text has no blank at its ends. -/
structure IsTrimmed (cs : List Char) : Prop where
  first : ∀ c, cs.head? = some c → isBlank c = false
  last : ∀ c, cs.getLast? = some c → isBlank c = false

theorem dropWhile_isBlank_of_head {cs : List Char}
    (h : ∀ c, cs.head? = some c → isBlank c = false) : cs.dropWhile isBlank = cs := by
  cases cs with
  | nil => rfl
  | cons c cs => exact List.dropWhile_cons_of_neg (by simp [h c rfl])

theorem head?_dropWhile_isBlank {cs : List Char} {c : Char}
    (h : (cs.dropWhile isBlank).head? = some c) : isBlank c = false := by
  have := List.head?_dropWhile_not isBlank cs
  rw [h] at this
  simpa using this

theorem trimChars_eq_self {cs : List Char} (h : IsTrimmed cs) : trimChars cs = cs := by
  rw [trimChars, dropWhile_isBlank_of_head h.first, dropWhile_isBlank_of_head, List.reverse_reverse]
  intro c hc
  exact h.last c (by rwa [List.head?_reverse] at hc)

theorem isTrimmed_trimChars (cs : List Char) : IsTrimmed (trimChars cs) := by
  refine ⟨fun c hc => ?_, fun c hc => ?_⟩
  · -- the first character that is left is the one that stopped the first scan
    rw [trimChars, List.head?_reverse] at hc
    obtain ⟨dropped, hdropped⟩ :=
      List.dropWhile_suffix isBlank (l := (cs.dropWhile isBlank).reverse)
    have hlast : (cs.dropWhile isBlank).reverse.getLast? = some c := by
      rw [← hdropped, List.getLast?_append, hc]
      rfl
    rw [List.getLast?_reverse] at hlast
    exact head?_dropWhile_isBlank hlast
  · rw [trimChars, List.getLast?_reverse] at hc
    exact head?_dropWhile_isBlank hc

theorem exists_getLast?_of_lowerFrom {cs : List Char} {afterCased : Bool} {d : Char}
    (h : (lowerFrom afterCased cs).getLast? = some d) :
    ∃ c, cs.getLast? = some c ∧ IsLoweredFrom c d := by
  induction cs generalizing afterCased with
  | nil => cases h
  | cons c cs ih =>
      obtain ⟨ds, afterCased', hds, -, hlowered⟩ := lowerFrom_cons afterCased c cs
      rw [hds, List.getLast?_append] at h
      cases cs with
      | nil => exact ⟨c, rfl, hlowered d (List.mem_of_getLast? h)⟩
      | cons c' cs =>
          obtain ⟨ds', more, hds', hne, -⟩ := lowerFrom_cons afterCased' c' cs
          have hsome : ∃ e, (lowerFrom afterCased' (c' :: cs)).getLast? = some e := by
            rw [hds', ← Option.isSome_iff_exists, List.getLast?_isSome]
            exact List.append_ne_nil_of_left_ne_nil hne _
          obtain ⟨e, he⟩ := hsome
          rw [he] at h
          obtain ⟨c'', hc'', hd⟩ := ih (he.trans h)
          exact ⟨c'', by rwa [List.getLast?_cons_cons], hd⟩

theorem isTrimmed_lowerFrom {cs : List Char} (h : IsTrimmed cs) (afterCased : Bool) :
    IsTrimmed (lowerFrom afterCased cs) := by
  refine ⟨fun d hd => ?_, fun d hd => ?_⟩
  · cases cs with
    | nil => cases hd
    | cons c cs =>
        obtain ⟨ds, afterCased', hds, hne, hlowered⟩ := lowerFrom_cons afterCased c cs
        obtain ⟨d', ds', rfl⟩ := List.exists_cons_of_ne_nil hne
        rw [hds] at hd
        obtain rfl : d' = d := Option.some.inj hd
        exact (hlowered d' List.mem_cons_self).not_blank (h.first c rfl)
  · obtain ⟨c, hc, hd⟩ := exists_getLast?_of_lowerFrom hd
    exact hd.not_blank (h.last c hc)

/-- A text without blanks at its ends has none there in lower case. -/
theorem trim_lower {s : String} (h : trim s = s) : trim (lower s) = lower s := by
  have htrimmed : IsTrimmed s.toList := by
    rw [← h, trim, String.toList_ofList]
    exact isTrimmed_trimChars _
  rw [trim, lower, String.toList_ofList, trimChars_eq_self (isTrimmed_lowerFrom htrimmed false)]

end UrlSigning.Text
