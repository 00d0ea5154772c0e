import UrlSigning.Proofs.Text.Ascii
import UrlSigning.Text.Case

/-!
# Case mapping

The upper case of a text in upper case is the text itself. Texts of ASCII are put into lower case
letter by letter, and the case of letters of ASCII does not show in the lower case of any text.
-/

namespace UrlSigning.Text

/-! ## Lower case of ASCII -/

theorem lowerFrom_of_ascii {cs : List Char} (h : ∀ c ∈ cs, c.toNat < 128) (afterCased : Bool) :
    lowerFrom afterCased cs = cs.map Char.toLower := by
  induction cs generalizing afterCased with
  | nil => rfl
  | cons c cs ih =>
      have hc := h c List.mem_cons_self
      -- the one letter whose lower case depends on what stands around it is not of ASCII
      have hsigma : c ≠ '\u03a3' := by
        rintro rfl
        revert hc
        decide
      rw [lowerFrom, if_neg hsigma, lowerChar, if_pos hc,
        ih fun d hd => h d (List.mem_cons_of_mem c hd)]
      rfl

theorem lower_of_ascii {s : String} (h : IsAscii s) :
    lower s = String.ofList (s.toList.map Char.toLower) := by
  rw [lower, lowerFrom_of_ascii h]

theorem toLower_ascii {c : Char} (h : c.toNat < 128) :
    c.toLower.toNat < 128 ∧ c.toLower.toLower = c.toLower :=
  forall_ascii (P := fun c => c.toLower.toNat < 128 ∧ c.toLower.toLower = c.toLower) (by decide) h

/-! ### Letters of ASCII in either case -/

theorem toLower_of_not_capital {c : Char} (h : ¬(65 ≤ c.toNat ∧ c.toNat ≤ 90)) :
    c.toLower = c :=
  dif_neg h

/-- What does not see the case of the letters of ASCII does not change when a letter is put into
lower case as one of ASCII. -/
theorem apply_toLower {α : Type} {f : Char → α}
    (h : ∀ n < 128, f (Char.ofNat n).toLower = f (Char.ofNat n)) (c : Char) :
    f c.toLower = f c := by
  by_cases hc : c.toNat < 128
  · exact forall_ascii (P := fun c => f c.toLower = f c) h hc
  · rw [toLower_of_not_capital (by omega)]

theorem lowerChar_toLower (c : Char) : lowerChar c.toLower = lowerChar c :=
  apply_toLower (by decide) c

theorem isCased_toLower (c : Char) : isCased c.toLower = isCased c :=
  apply_toLower (by decide) c

theorem inSpans_eq_false {spans : List Span} {first last : Nat} {c : Char}
    (h : ∀ s ∈ spans, last < s.first ∨ s.last < first) (hfirst : first ≤ c.toNat)
    (hlast : c.toNat ≤ last) : inSpans spans c = false := by
  rw [inSpans, List.any_eq_false]
  intro s hs hhas
  have := h s hs
  simp only [Span.has, Bool.and_eq_true, decide_eq_true_eq] at hhas
  omega

theorem isUnnoticed_toLower (c : Char) : isUnnoticed c.toLower = isUnnoticed c := by
  by_cases hletter : 65 ≤ c.toNat ∧ c.toNat ≤ 90
  · -- no letter of ASCII is unnoticed
    have hlower : 97 ≤ c.toLower.toNat ∧ c.toLower.toNat ≤ 122 :=
      forall_ascii (P := fun c => 65 ≤ c.toNat ∧ c.toNat ≤ 90 →
        97 ≤ c.toLower.toNat ∧ c.toLower.toNat ≤ 122) (by decide) (by omega) hletter
    rw [isUnnoticed, isUnnoticed,
      inSpans_eq_false (by decide +kernel) hletter.1 hletter.2,
      inSpans_eq_false (by decide +kernel) hlower.1 hlower.2]
  · rw [toLower_of_not_capital hletter]

theorem toLower_eq_sigma_iff (c : Char) : c.toLower = '\u03a3' ↔ c = '\u03a3' :=
  Eq.to_iff (apply_toLower (f := fun c => c = '\u03a3') (by decide) c)

theorem casedAhead_map_toLower (cs : List Char) :
    casedAhead (cs.map Char.toLower) = casedAhead cs := by
  have hunnoticed : isUnnoticed ∘ Char.toLower = isUnnoticed := funext isUnnoticed_toLower
  have hcased : isCased ∘ Char.toLower = isCased := funext isCased_toLower
  rw [casedAhead, List.dropWhile_map, hunnoticed, List.head?_map, Option.map_map, hcased,
    casedAhead]

theorem lowerFrom_map_toLower (cs : List Char) (afterCased : Bool) :
    lowerFrom afterCased (cs.map Char.toLower) = lowerFrom afterCased cs := by
  induction cs generalizing afterCased with
  | nil => rfl
  | cons c cs ih =>
      rw [List.map_cons, lowerFrom, lowerFrom, lowerChar_toLower, isUnnoticed_toLower,
        isCased_toLower, casedAhead_map_toLower, ih]
      simp only [toLower_eq_sigma_iff]

/-- The texts are the same but for the case of their letters of ASCII. -/
def IsRespelling (s t : String) : Prop :=
  s.toList.map Char.toLower = t.toList.map Char.toLower

instance (s t : String) : Decidable (IsRespelling s t) :=
  inferInstanceAs (Decidable (_ = _))

/-- The case of the letters of ASCII does not show in the lower case of a text, not even where the
lower case of another letter depends on what stands around it. -/
theorem IsRespelling.lower {s t : String} (h : IsRespelling s t) : lower s = lower t := by
  rw [Text.lower, ← lowerFrom_map_toLower, h, lowerFrom_map_toLower, Text.lower]

/-! ## Upper case -/

/-- The code points to which a run of letters moves. -/
def Shift.target (s : Shift) : Span :=
  ⟨(s.first + s.distance).toNat, (s.last + s.distance).toNat⟩

/-- Whether the run leaves out every second code point, or is no more than one. -/
def Shift.alternates (s : Shift) : Bool :=
  Nat.beq s.step 2 || Nat.beq s.first s.last

/-- Whether the run moves no code point of the span, of which only every second one counts if
`alternate` says so. -/
def Shift.misses (span : Span) (alternate : Bool) (s : Shift) : Bool :=
  Nat.blt span.last s.first || Nat.blt s.last span.first ||
    alternate && Nat.beq s.step 2 && Nat.beq ((span.first + s.first) % 2) 1

/-- Whether the code points of the span are characters in upper case. -/
def Span.settled (span : Span) (alternate : Bool) : Bool :=
  (Nat.blt span.last 0xD800 || Nat.blt 0xDFFF span.first && Nat.blt span.last 0x110000) &&
    (Nat.blt span.last 97 || Nat.blt 127 span.first) &&
    upperExpansions.all (fun e => Nat.blt span.last e.1 || Nat.blt e.1 span.first) &&
    upperShifts.all (Shift.misses span alternate)

-- The tables are finite, so what is needed of them is evaluated once, run by run.
theorem settled_of_shift : (upperShifts.all fun s => s.target.settled s.alternates) = true := by
  decide +kernel

theorem nonneg_of_shift : ∀ s ∈ upperShifts, 0 ≤ s.first + s.distance := by
  decide +kernel

theorem settled_of_expansion :
    (upperExpansions.all fun e => e.2.all fun n => (Span.mk n n).settled true) = true := by
  decide +kernel

theorem not_moves_of_misses {span : Span} {alternate : Bool} {s : Shift} {c : Char}
    (h : s.misses span alternate = true) (hfirst : span.first ≤ c.toNat)
    (hlast : c.toNat ≤ span.last) (hstep : alternate = true → (c.toNat - span.first) % 2 = 0) :
    s.moves c = false := by
  simp only [Shift.misses, Bool.or_eq_true, Bool.and_eq_true, Nat.blt_eq, Nat.beq_eq] at h
  rw [Bool.eq_false_iff]
  intro hmoves
  simp only [Shift.moves, Bool.and_eq_true, decide_eq_true_eq, beq_iff_eq] at hmoves
  obtain ⟨⟨hs, hs'⟩, hs''⟩ := hmoves
  rcases h with (h | h) | ⟨⟨halternate, htwo⟩, hodd⟩
  · omega
  · omega
  · have heven := hstep halternate
    rw [htwo] at hs''
    omega

theorem shiftBy_of_misses {shifts : List Shift} {span : Span} {alternate : Bool} {c : Char}
    (h : ∀ s ∈ shifts, s.misses span alternate = true) (hfirst : span.first ≤ c.toNat)
    (hlast : c.toNat ≤ span.last) (hstep : alternate = true → (c.toNat - span.first) % 2 = 0) :
    shiftBy shifts c = c := by
  have hfind : shifts.find? (·.moves c) = none := by
    rw [List.find?_eq_none]
    intro s hs
    rw [not_moves_of_misses (h s hs) hfirst hlast hstep]
    decide
  rw [shiftBy, hfind]

/-- A run that leaves out every second code point moves to every second one as well. -/
theorem Shift.target_of_moves {s : Shift} {c : Char} (hmoves : s.moves c = true)
    (hnonneg : 0 ≤ s.first + s.distance) :
    s.target.first ≤ (c.toNat + s.distance).toNat ∧
      (c.toNat + s.distance).toNat ≤ s.target.last ∧
      (s.alternates = true → ((c.toNat + s.distance).toNat - s.target.first) % 2 = 0) := by
  simp only [Shift.moves, Bool.and_eq_true, decide_eq_true_eq, beq_iff_eq] at hmoves
  obtain ⟨⟨hfirst, hlast⟩, hstep⟩ := hmoves
  dsimp only [Shift.target]
  refine ⟨by omega, by omega, fun halternates => ?_⟩
  simp only [Shift.alternates, Bool.or_eq_true, Nat.beq_eq] at halternates
  rcases halternates with htwo | hone
  · rw [htwo] at hstep
    omega
  · omega

theorem upperChar_of_settled {span : Span} {alternate : Bool} {n : Nat}
    (h : span.settled alternate = true) (hfirst : span.first ≤ n) (hlast : n ≤ span.last)
    (hstep : alternate = true → (n - span.first) % 2 = 0) :
    upperChar (Char.ofNat n) = [Char.ofNat n] := by
  simp only [Span.settled, Bool.and_eq_true, Bool.or_eq_true, Nat.blt_eq, List.all_eq_true] at h
  obtain ⟨⟨⟨hvalid, hlower⟩, hexpansions⟩, hshifts⟩ := h
  have hn : (Char.ofNat n).toNat = n := by
    refine toNat_ofNat_of_isValidChar ?_
    unfold Nat.isValidChar
    omega
  unfold upperChar
  split
  · next hascii =>
      have hupper : ∀ m < 97, (Char.ofNat m).toUpper = Char.ofNat m := by decide
      rw [hupper n (by omega)]
  · have hlookup : upperExpansions.lookup (Char.ofNat n).toNat = none := by
      rw [List.lookup_eq_none_iff]
      intro e he
      have := hexpansions e he
      simp
      omega
    rw [hlookup, shiftBy_of_misses hshifts (by omega) (by omega) (by rwa [hn])]

theorem upperChar_of_expansion {n m : Nat} {ns : List Nat}
    (hlookup : upperExpansions.lookup n = some ns) (hm : m ∈ ns) :
    upperChar (Char.ofNat m) = [Char.ofNat m] := by
  obtain ⟨before, after, htable, -⟩ := List.lookup_eq_some_iff.mp hlookup
  have hmem : (n, ns) ∈ upperExpansions := by
    rw [htable]
    exact List.mem_append_right before List.mem_cons_self
  have hsettled := List.all_eq_true.mp (List.all_eq_true.mp settled_of_expansion (n, ns) hmem) m hm
  exact upperChar_of_settled hsettled (Nat.le_refl m) (Nat.le_refl m) (by simp)

theorem upperChar_of_shift {s : Shift} {c : Char} (hs : s ∈ upperShifts)
    (hmoves : s.moves c = true) :
    upperChar (Char.ofNat (c.toNat + s.distance).toNat) =
      [Char.ofNat (c.toNat + s.distance).toNat] := by
  obtain ⟨hfirst, hlast, hstep⟩ := Shift.target_of_moves hmoves (nonneg_of_shift s hs)
  exact upperChar_of_settled (List.all_eq_true.mp settled_of_shift s hs) hfirst hlast hstep

theorem upperChar_of_mem {c d : Char} (h : d ∈ upperChar c) : upperChar d = [d] := by
  unfold upperChar at h
  split at h
  · next hc =>
      rw [List.mem_singleton.mp h]
      exact forall_ascii (P := fun c => upperChar c.toUpper = [c.toUpper]) (by decide) hc
  · next hc =>
      split at h
      · next ns hns =>
          obtain ⟨n, hn, rfl⟩ := List.mem_map.mp h
          exact upperChar_of_expansion hns hn
      · next hlookup =>
          rw [List.mem_singleton.mp h, shiftBy]
          split
          · next s hs =>
              have hmoves := List.find?_some hs
              exact upperChar_of_shift (List.mem_of_find?_eq_some hs) hmoves
          · -- no run moves the letter, so it is its own upper case
            next hfind => rw [upperChar, if_neg hc, hlookup, shiftBy, hfind]

theorem flatMap_upperChar_of_fixed {cs : List Char} (h : ∀ c ∈ cs, upperChar c = [c]) :
    cs.flatMap upperChar = cs := by
  induction cs with
  | nil => rfl
  | cons c cs ih =>
      rw [List.flatMap_cons, h c List.mem_cons_self, ih fun d hd => h d (List.mem_cons_of_mem c hd)]
      rfl

/-- The upper case of a text in upper case is the text. -/
theorem upper_upper (s : String) : upper (upper s) = upper s := by
  rw [upper, upper, String.toList_ofList, flatMap_upperChar_of_fixed]
  intro d hd
  obtain ⟨c, -, hd⟩ := List.mem_flatMap.mp hd
  exact upperChar_of_mem hd

end UrlSigning.Text
