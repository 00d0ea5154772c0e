import UrlSigning.Proofs.Text.Ascii
import UrlSigning.Proofs.Text.Cut
import UrlSigning.Proofs.Text.Utf8
import UrlSigning.Text.Percent

/-!
# Reading what was percent-encoded

An encoded text is read as the text, as long as a percent sign does not stand for itself. It holds
nothing but safe characters and percent signs, and a text that holds only safe characters is left as
it is. What is encoded is cut at a separator into the encoded parts of the text.
-/

namespace UrlSigning.Text

theorem Hex.value?_digit (k : Hex.Case) {n : Nat} (h : n < 16) :
    Hex.value? (Hex.digit k n) = some n := by
  have all : ∀ m < 16, Hex.value? (Hex.digit k m) = some m := by
    cases k <;> decide
  exact all n h

/-- What is written in hexadecimal is digits. -/
theorem Hex.exists_of_mem_text {bs : Bytes} {c : Char} (h : c ∈ (Hex.text bs).toList) :
    ∃ n < 16, c = Hex.digit .lower n := by
  rw [Hex.text, String.toList_ofList] at h
  obtain ⟨b, -, hc⟩ := List.mem_flatMap.mp h
  have hb := b.toNat_lt
  simp only [Hex.ofByte, List.mem_cons, List.not_mem_nil, or_false] at hc
  rcases hc with rfl | rfl
  · exact ⟨b.toNat / 16, by omega, rfl⟩
  · exact ⟨b.toNat % 16, by omega, rfl⟩

namespace Percent

/-! ## Unreserved characters -/

theorem toNat_lt_of_isUnreserved {c : Char} (h : isUnreserved c = true) : c.toNat < 128 := by
  simp only [isUnreserved, Bool.or_eq_true, beq_iff_eq] at h
  rcases h with (((h | rfl) | rfl) | rfl) | rfl
  · exact toNat_lt_of_isAlphanum h
  all_goals decide

theorem isUnreserved_digit {n : Nat} (h : n < 16) (k : Hex.Case) :
    isUnreserved (Hex.digit k n) = true := by
  have all : ∀ m < 16, isUnreserved (Hex.digit k m) = true := by
    cases k <;> decide
  exact all n h

section

variable {safe : Char → Bool} (hsafe : ∀ c, isUnreserved c = true → safe c = true)

include hsafe

theorem mem_encodeByte {b : UInt8} {c : Char} (h : c ∈ encodeByte safe b) :
    c = '%' ∨ safe c = true := by
  have hb := b.toNat_lt
  unfold encodeByte at h
  split at h
  · next hsafe =>
      rw [List.mem_singleton.mp h]
      exact .inr (Bool.and_eq_true _ _ ▸ hsafe).2
  · rcases List.mem_cons.mp h with rfl | h
    · exact .inl rfl
    · simp only [Hex.ofByte, List.mem_cons, List.not_mem_nil, or_false] at h
      rcases h with rfl | rfl
      · exact .inr (hsafe _ (isUnreserved_digit (by omega) _))
      · exact .inr (hsafe _ (isUnreserved_digit (by omega) _))

/-- What is encoded holds nothing but safe characters and percent signs. -/
theorem mem_encodeChars {cs : List Char} {c : Char} (h : c ∈ encodeChars safe cs) :
    c = '%' ∨ safe c = true := by
  obtain ⟨b, -, hc⟩ := List.mem_flatMap.mp h
  exact mem_encodeByte hsafe hc

end

theorem encodeChars_of_safe {safe : Char → Bool} {cs : List Char}
    (h : ∀ c ∈ cs, safe c = true ∧ c.toNat < 128) : encodeChars safe cs = cs := by
  induction cs with
  | nil => rfl
  | cons c cs ih =>
      obtain ⟨hsafe, hascii⟩ := h c List.mem_cons_self
      have hbyte : encodeByte safe (UInt8.ofNat c.toNat) = [c] := by
        rw [encodeByte, Utf8.toNat_ofNat_of_lt (by omega), Char.ofNat_toNat, hsafe]
        simp [hascii]
      rw [encodeChars, Utf8.encode, List.flatMap_cons, Utf8.encodeChar_of_ascii hascii,
        List.singleton_append, List.flatMap_cons, hbyte]
      exact congrArg (c :: ·) (ih fun d hd => h d (List.mem_cons_of_mem c hd))

/-! ## Reading -/

theorem decodeBytes_cons_of_ne {c : Char} (h : c ≠ '%') (rest : List Char) :
    decodeBytes (c :: rest) = Utf8.encodeChar c ++ decodeBytes rest := by
  rw [decodeBytes]
  rintro a b cs rfl
  exact absurd rfl h

theorem decodeBytes_encodeByte {safe : Char → Bool} (hsafe : safe '%' = false) (b : UInt8)
    (rest : List Char) : decodeBytes (encodeByte safe b ++ rest) = b :: decodeBytes rest := by
  have hb := b.toNat_lt
  unfold encodeByte
  split
  · next h =>
      -- a safe byte stands for itself, and is no percent sign
      rw [Bool.and_eq_true, decide_eq_true_eq] at h
      have hnat : (Char.ofNat b.toNat).toNat = b.toNat :=
        toNat_ofNat_of_isValidChar (.inl (by omega))
      have hne : Char.ofNat b.toNat ≠ '%' := by
        intro heq
        rw [heq, hsafe] at h
        cases h.2
      rw [List.singleton_append, decodeBytes_cons_of_ne hne,
        Utf8.encodeChar_of_ascii (by omega), hnat, UInt8.ofNat_toNat]
      rfl
  · have hdigits : UInt8.ofNat (16 * (b.toNat / 16) + b.toNat % 16) = b := by
      rw [Nat.div_add_mod, UInt8.ofNat_toNat]
    dsimp only [Hex.ofByte, List.cons_append, List.nil_append]
    rw [decodeBytes, Hex.value?_digit _ (by omega), Hex.value?_digit _ (by omega)]
    dsimp only
    rw [hdigits]

/-- Reading what was encoded gives the text back. -/
theorem decodeChars_encodeChars {safe : Char → Bool} (hsafe : safe '%' = false) (cs : List Char) :
    decodeChars (encodeChars safe cs) = cs := by
  have hbytes (bs : Bytes) : decodeBytes (bs.flatMap (encodeByte safe)) = bs := by
    induction bs with
    | nil => rfl
    | cons b bs ih => rw [List.flatMap_cons, decodeBytes_encodeByte hsafe, ih]
  rw [decodeChars, encodeChars, hbytes, Utf8.decodeLossy_encode]

theorem encodeChars_injective {safe : Char → Bool} (hsafe : safe '%' = false) :
    Function.Injective (encodeChars safe) :=
  Function.LeftInverse.injective (decodeChars_encodeChars hsafe)

/-! ## Separators -/

theorem encodeChars_append (safe : Char → Bool) (a b : List Char) :
    encodeChars safe (a ++ b) = encodeChars safe a ++ encodeChars safe b := by
  simp only [encodeChars, Utf8.encode, List.flatMap_append]

/-- A separator of encoded texts: it is left as it is, and no escape is written with it. -/
structure Separates (safe : Char → Bool) (sep : Char) : Prop where
  safe : safe sep = true
  reserved : isUnreserved sep = false
  ascii : sep.toNat < 128
  ne_percent : sep ≠ '%'

namespace Separates

variable {safe : Char → Bool} {sep : Char}

theorem encodeChars_singleton (h : Separates safe sep) : encodeChars safe [sep] = [sep] :=
  encodeChars_of_safe fun c hc => by
    rw [List.mem_singleton.mp hc]
    exact ⟨h.safe, h.ascii⟩

/-- A separator comes out of itself only. -/
theorem of_mem_encodeChars_singleton (h : Separates safe sep) {c : Char}
    (hc : sep ∈ encodeChars safe [c]) : c = sep := by
  obtain ⟨b, hb, hsep⟩ := List.mem_flatMap.mp hc
  rw [Utf8.encode, List.flatMap_singleton] at hb
  have hlt := b.toNat_lt
  have hdigit {n : Nat} (hn : n < 16) : sep ≠ Hex.digit .upper n := by
    intro heq
    have hreserved := h.reserved
    rw [heq, isUnreserved_digit hn] at hreserved
    cases hreserved
  unfold encodeByte at hsep
  split at hsep
  · next hsafe =>
      rw [Bool.and_eq_true, decide_eq_true_eq] at hsafe
      have hnat : (Char.ofNat b.toNat).toNat = b.toNat :=
        toNat_ofNat_of_isValidChar (.inl (by omega))
      rw [List.mem_singleton.mp hsep, ← Char.toNat_inj, hnat]
      exact Utf8.of_mem_encodeChar hb hsafe.1
  · -- an escape is written with a percent sign and digits
    simp only [Hex.ofByte, List.mem_cons, List.not_mem_nil, or_false] at hsep
    rcases hsep with hsep | hsep | hsep
    · exact absurd hsep h.ne_percent
    · exact absurd hsep (hdigit (by omega))
    · exact absurd hsep (hdigit (by omega))

/-- There are as many separators in an encoded text as in the text. -/
theorem count_encodeChars (h : Separates safe sep) (cs : List Char) :
    (encodeChars safe cs).count sep = cs.count sep := by
  induction cs with
  | nil => rfl
  | cons c cs ih =>
      rw [← List.singleton_append, encodeChars_append, List.count_append, List.count_append, ih]
      congr 1
      by_cases hc : c = sep
      · rw [hc, h.encodeChars_singleton]
      · have hmem := mt h.of_mem_encodeChars_singleton hc
        rw [List.count_eq_zero.mpr hmem, List.count_singleton, if_neg (by simpa using hc)]

theorem mem_encodeChars_iff (h : Separates safe sep) {cs : List Char} :
    sep ∈ encodeChars safe cs ↔ sep ∈ cs := by
  rw [← List.count_pos_iff, h.count_encodeChars, List.count_pos_iff]

theorem encodeChars_joinAll (h : Separates safe sep) (parts : List (List Char)) :
    encodeChars safe (joinAll sep parts) = joinAll sep (parts.map (encodeChars safe)) := by
  induction parts with
  | nil => rfl
  | cons part parts ih =>
      rcases parts with _ | ⟨next, parts⟩
      · simp [joinAll]
      · rw [joinAll_cons_cons, ← List.singleton_append, encodeChars_append, encodeChars_append,
          h.encodeChars_singleton, ih, List.map_cons, List.map_cons, List.map_cons,
          joinAll_cons_cons, List.singleton_append]

/-- The parts of an encoded text are the encoded parts. -/
theorem cutAll_encodeChars (h : Separates safe sep) (cs : List Char) :
    cutAll sep (encodeChars safe cs) = (cutAll sep cs).map (encodeChars safe) := by
  have hjoin : encodeChars safe cs = joinAll sep ((cutAll sep cs).map (encodeChars safe)) := by
    rw [← h.encodeChars_joinAll, joinAll_cutAll]
  rw [hjoin]
  refine cutAll_joinAll (by simpa using cutAll_ne_nil sep cs) ?_
  intro part hpart
  obtain ⟨plain, hplain, rfl⟩ := List.mem_map.mp hpart
  rw [h.mem_encodeChars_iff]
  exact not_mem_of_mem_cutAll hplain

theorem getLast?_encodeChars (h : Separates safe sep) (hpercent : safe '%' = false)
    {cs : List Char} : (encodeChars safe cs).getLast? = some sep ↔ cs.getLast? = some sep := by
  rw [getLast?_eq_sep_iff, getLast?_eq_sep_iff, h.cutAll_encodeChars]
  constructor
  · rintro ⟨parts, hne, hparts⟩
    obtain ⟨before, last, hcut, rfl, hlast⟩ := List.map_eq_append_iff.mp hparts
    obtain ⟨part, rfl, hpart⟩ := List.map_eq_singleton_iff.mp hlast
    obtain rfl : part = [] := encodeChars_injective hpercent hpart
    exact ⟨before, by simpa using hne, hcut⟩
  · rintro ⟨parts, hne, hcut⟩
    refine ⟨parts.map (encodeChars safe), by simpa using hne, ?_⟩
    rw [hcut, List.map_append]
    rfl

end Separates

end Percent

end UrlSigning.Text
