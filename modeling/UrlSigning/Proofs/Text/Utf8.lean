import UrlSigning.Proofs.Checked
import UrlSigning.Proofs.Text.Ascii
import UrlSigning.Text.Utf8

/-!
# Reading UTF-8 that was written

The bytes of a text are read as that text, also by the reader that puts up with faults. The strict
reader reads nothing else: bytes that it takes for a text are the bytes of that text.
-/

namespace UrlSigning.Text.Utf8

theorem toNat_ofNat_of_lt {n : Nat} (h : n < 256) : (UInt8.ofNat n).toNat = n := by
  rw [UInt8.toNat_ofNat']
  exact Nat.mod_eq_of_lt h

/-- The code points of characters leave out the surrogates. -/
theorem toNat_cases (c : Char) : c.toNat < 0xD800 ∨ 0xDFFF < c.toNat ∧ c.toNat < 0x110000 :=
  c.valid

theorem readContinuation_cons {value done low high count n : Nat} {rest : Bytes} (hn : n < 256)
    (hlow : low ≤ n) (hhigh : n ≤ high) :
    readContinuation value done low high (count + 1) (UInt8.ofNat n :: rest) =
      readContinuation (value * 0x40 + n % 0x40) (done + 1) 0x80 0xBF count rest := by
  rw [readContinuation, continues, toNat_ofNat_of_lt hn]
  simp [hlow, hhigh]

/-- The bytes of a character, with anything after them, are read as the character. -/
theorem readChar_encodeChar (c : Char) :
    ∃ b more, encodeChar c = b :: more ∧
      ∀ rest, readChar b (more ++ rest) = ⟨.ok c, more.length⟩ := by
  have hvalid := toNat_cases c
  have hback {n : Nat} (hn : n = c.toNat) : Char.ofNat n = c := by
    rw [hn]
    exact Char.ofNat_toNat c
  unfold encodeChar
  dsimp only
  -- one case for each number of bytes, from one to four
  split
  · next h =>
      refine ⟨_, _, rfl, fun rest => ?_⟩
      rw [readChar, toNat_ofNat_of_lt (by omega), if_pos h, hback rfl]
      rfl
  · split
    · next h =>
        refine ⟨_, _, rfl, fun rest => ?_⟩
        dsimp only [List.cons_append, List.nil_append]
        rw [readChar, toNat_ofNat_of_lt (by omega), if_neg (by omega), if_neg (by omega),
          if_pos (by omega), readContinuation_cons (by omega) (by omega) (by omega),
          readContinuation, hback (by omega)]
        rfl
    · split
      · next h =>
          refine ⟨_, _, rfl, fun rest => ?_⟩
          dsimp only [List.cons_append, List.nil_append]
          rw [readChar, toNat_ofNat_of_lt (by omega), if_neg (by omega), if_neg (by omega),
            if_neg (by omega), if_pos (by omega),
            readContinuation_cons (by omega) (by split <;> omega) (by split <;> omega),
            readContinuation_cons (by omega) (by omega) (by omega), readContinuation,
            hback (by omega)]
          rfl
      · refine ⟨_, _, rfl, fun rest => ?_⟩
        dsimp only [List.cons_append, List.nil_append]
        rw [readChar, toNat_ofNat_of_lt (by omega), if_neg (by omega), if_neg (by omega),
          if_neg (by omega), if_neg (by omega), if_pos (by omega),
          readContinuation_cons (by omega) (by split <;> omega) (by split <;> omega),
          readContinuation_cons (by omega) (by omega) (by omega),
          readContinuation_cons (by omega) (by omega) (by omega), readContinuation,
          hback (by omega)]
        rfl

theorem encodeChar_of_ascii {c : Char} (h : c.toNat < 128) :
    encodeChar c = [UInt8.ofNat c.toNat] := by
  rw [encodeChar, if_pos h]

/-- A byte of ASCII is written for the character of its number only. -/
theorem of_mem_encodeChar {c : Char} {b : UInt8} (h : b ∈ encodeChar c) (hb : b.toNat < 128) :
    c.toNat = b.toNat := by
  have hc := toNat_cases c
  unfold encodeChar at h
  dsimp only at h
  split at h
  · next hascii =>
      rw [List.mem_singleton.mp h, toNat_ofNat_of_lt (by omega)]
  -- every byte of a longer spelling is at least 128
  · split at h
    · simp only [List.mem_cons, List.not_mem_nil, or_false] at h
      rcases h with rfl | rfl <;> rw [toNat_ofNat_of_lt (by omega)] at hb <;> omega
    · split at h
      · simp only [List.mem_cons, List.not_mem_nil, or_false] at h
        rcases h with rfl | rfl | rfl <;> rw [toNat_ofNat_of_lt (by omega)] at hb <;> omega
      · simp only [List.mem_cons, List.not_mem_nil, or_false] at h
        rcases h with rfl | rfl | rfl | rfl <;> rw [toNat_ofNat_of_lt (by omega)] at hb <;> omega

/-- Reading what was written gives the text back. -/
theorem decodeLossy_encode (cs : List Char) : decodeLossy (encode cs) = cs := by
  induction cs with
  | nil => rw [encode, List.flatMap_nil, decodeLossy]
  | cons c cs ih =>
      obtain ⟨b, more, hc, hread⟩ := readChar_encodeChar c
      have hcons : encode (c :: cs) = b :: (more ++ encode cs) := by
        rw [encode, List.flatMap_cons, hc]
        rfl
      rw [hcons, decodeLossy, hread, List.drop_left, ih]

theorem decodeFrom_encode (position : Nat) (cs : List Char) :
    decodeFrom position (encode cs) = .ok cs := by
  induction cs generalizing position with
  | nil => rw [encode, List.flatMap_nil, decodeFrom]
  | cons c cs ih =>
      obtain ⟨b, more, hc, hread⟩ := readChar_encodeChar c
      have hcons : encode (c :: cs) = b :: (more ++ encode cs) := by
        rw [encode, List.flatMap_cons, hc]
        rfl
      rw [hcons, decodeFrom, hread]
      dsimp only
      rw [List.drop_left, ih]
      rfl

/-! ## Only what was written is read -/

theorem of_readContinuation {value done low high count extra : Nat} {bs : Bytes} {c : Char}
    (h : readContinuation value done low high (count + 1) bs = ⟨.ok c, extra⟩) :
    ∃ n rest, n < 256 ∧ bs = UInt8.ofNat n :: rest ∧ low ≤ n ∧ n ≤ high ∧
      readContinuation (value * 0x40 + n % 0x40) (done + 1) 0x80 0xBF count rest =
        ⟨.ok c, extra⟩ := by
  cases bs with
  | nil =>
      rw [readContinuation] at h
      cases h
  | cons b rest =>
      rw [readContinuation] at h
      split at h
      · next hbounds =>
          simp only [continues, Bool.and_eq_true, decide_eq_true_eq] at hbounds
          exact ⟨b.toNat, rest, b.toNat_lt, by rw [UInt8.ofNat_toNat], hbounds.1, hbounds.2, h⟩
      · cases h

theorem of_readContinuation_zero {value done low high extra : Nat} {bs : Bytes} {c : Char}
    (h : readContinuation value done low high 0 bs = ⟨.ok c, extra⟩) (hvalid : value.isValidChar) :
    c.toNat = value ∧ extra = done := by
  cases h
  exact ⟨toNat_ofNat_of_isValidChar hvalid, rfl⟩

/-- What is read as a character begins with its bytes. -/
theorem of_readChar {b : UInt8} {rest : Bytes} {c : Char} {extra : Nat}
    (h : readChar b rest = ⟨.ok c, extra⟩) :
    ∃ more, encodeChar c = b :: more ∧ rest = more ++ rest.drop extra := by
  obtain ⟨n, hn, rfl⟩ : ∃ n, n < 256 ∧ b = UInt8.ofNat n :=
    ⟨b.toNat, b.toNat_lt, by rw [UInt8.ofNat_toNat]⟩
  unfold readChar at h
  dsimp only at h
  rw [toNat_ofNat_of_lt hn] at h
  -- one case for each number of bytes, from one to four
  split at h
  · next hone =>
      cases h
      have hc : (Char.ofNat n).toNat = n := toNat_ofNat_of_isValidChar (.inl (by omega))
      refine ⟨[], ?_, rfl⟩
      rw [encodeChar_of_ascii (by omega), hc]
  split at h
  · cases h
  split at h
  · obtain ⟨m, after, hm, rfl, hlow, hhigh, h⟩ := of_readContinuation h
    obtain ⟨hc, rfl⟩ := of_readContinuation_zero h (.inl (by omega))
    refine ⟨[UInt8.ofNat m], ?_, rfl⟩
    have hfirst : 0xC0 + (n % 0x20 * 0x40 + m % 0x40) / 0x40 = n := by omega
    have hlast : 0x80 + (n % 0x20 * 0x40 + m % 0x40) % 0x40 = m := by omega
    rw [encodeChar, hc, if_neg (by omega), if_pos (by omega), hfirst, hlast]
  split at h
  · obtain ⟨m, after, hm, rfl, hlow, hhigh, h⟩ := of_readContinuation h
    obtain ⟨k, after, hk, rfl, hlow', hhigh', h⟩ := of_readContinuation h
    have hlow : 0x80 ≤ m ∧ (n = 0xE0 → 0xA0 ≤ m) := by split at hlow <;> omega
    have hhigh : m ≤ 0xBF ∧ (n = 0xED → m ≤ 0x9F) := by split at hhigh <;> omega
    obtain ⟨v, hv⟩ : ∃ v, v = (n % 0x10 * 0x40 + m % 0x40) * 0x40 + k % 0x40 := ⟨_, rfl⟩
    rw [← hv] at h
    have hvalid : v < 0xD800 ∨ 0xDFFF < v ∧ v < 0x110000 := by omega
    obtain ⟨hc, rfl⟩ := of_readContinuation_zero h hvalid
    refine ⟨[UInt8.ofNat m, UInt8.ofNat k], ?_, rfl⟩
    have hfirst : 0xE0 + v / 0x1000 = n := by omega
    have hsecond : 0x80 + v / 0x40 % 0x40 = m := by omega
    have hlast : 0x80 + v % 0x40 = k := by omega
    rw [encodeChar, hc, if_neg (by omega), if_neg (by omega), if_pos (by omega), hfirst, hsecond,
      hlast]
  split at h
  · obtain ⟨m, after, hm, rfl, hlow, hhigh, h⟩ := of_readContinuation h
    obtain ⟨k, after, hk, rfl, hlow', hhigh', h⟩ := of_readContinuation h
    obtain ⟨l, after, hl, rfl, hlow'', hhigh'', h⟩ := of_readContinuation h
    have hlow : 0x80 ≤ m ∧ (n = 0xF0 → 0x90 ≤ m) := by split at hlow <;> omega
    have hhigh : m ≤ 0xBF ∧ (n = 0xF4 → m ≤ 0x8F) := by split at hhigh <;> omega
    obtain ⟨v, hv⟩ :
        ∃ v, v = ((n % 0x08 * 0x40 + m % 0x40) * 0x40 + k % 0x40) * 0x40 + l % 0x40 := ⟨_, rfl⟩
    rw [← hv] at h
    have hvalid : 0xFFFF < v ∧ v < 0x110000 := by omega
    obtain ⟨hc, rfl⟩ := of_readContinuation_zero h (.inr (by omega))
    refine ⟨[UInt8.ofNat m, UInt8.ofNat k, UInt8.ofNat l], ?_, rfl⟩
    have hfirst : 0xF0 + v / 0x40000 = n := by omega
    have hsecond : 0x80 + v / 0x1000 % 0x40 = m := by omega
    have hthird : 0x80 + v / 0x40 % 0x40 = k := by omega
    have hlast : 0x80 + v % 0x40 = l := by omega
    rw [encodeChar, hc, if_neg (by omega), if_neg (by omega), if_neg (by omega), hfirst, hsecond,
      hthird, hlast]
  · cases h

theorem encode_of_decodeFrom {position : Nat} {bs : Bytes} {cs : List Char}
    (h : decodeFrom position bs = .ok cs) : encode cs = bs := by
  induction position, bs using decodeFrom.induct generalizing cs with
  | case1 position =>
      rw [decodeFrom] at h
      cases h
      rfl
  | case2 position b rest reading c hread =>
      rename_i ih
      have hread : (readChar b rest).result = .ok c := hread
      rw [decodeFrom, hread] at h
      obtain ⟨more, hmore, h⟩ := bind_eq_ok.mp h
      cases h
      have hreading : readChar b rest = ⟨.ok c, (readChar b rest).extra⟩ := by rw [← hread]
      obtain ⟨bytes, hbytes, hrest⟩ := of_readChar hreading
      rw [encode, List.flatMap_cons, hbytes]
      show b :: (bytes ++ encode more) = b :: rest
      rw [ih hmore, ← hrest]
  | case3 position b rest reading fault =>
      rename_i hread
      have hread : (readChar b rest).result = .error fault := hread
      rw [decodeFrom, hread] at h
      cases h

/-- Bytes are read as a text just when they are its bytes. -/
theorem decode_eq_ok_iff {bs : Bytes} {cs : List Char} : decode bs = .ok cs ↔ encode cs = bs := by
  constructor
  · intro h
    exact encode_of_decodeFrom h
  · rintro rfl
    exact decodeFrom_encode 0 cs

end UrlSigning.Text.Utf8
