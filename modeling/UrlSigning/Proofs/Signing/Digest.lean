import UrlSigning.Proofs.Signing.Payload

/-!
# Digests

The hash of a payload is one of two words, or a digest: sixty-four hexadecimal digits in lower case.
A text that a caller gives for a digest is taken if it is one, but also if it is one with a line end
after it. The hash of such a payload takes two lines, so that what is signed ends with an empty one.
-/

namespace UrlSigning.Signing

open Text

/-- Sixty-four hexadecimal digits in lower case, and nothing else. -/
def IsDigest (s : String) : Prop :=
  s.length = 64 ∧ ∀ c ∈ s.toList, c ∈ "0123456789abcdef".toList

instance : DecidablePred IsDigest := fun s =>
  inferInstanceAs (Decidable (s.length = 64 ∧ ∀ c ∈ s.toList, c ∈ "0123456789abcdef".toList))

/-- A digest, and a line end after it. -/
def IsEndedDigest (s : String) : Prop :=
  ∃ digest, IsDigest digest ∧ s = digest ++ "\n"

/-! ## Digits -/

theorem isLowerHex_iff {c : Char} : isLowerHex c = true ↔ c ∈ "0123456789abcdef".toList := by
  constructor
  · intro h
    have hascii : c.toNat < 128 := by
      simp only [isLowerHex, Bool.or_eq_true, Bool.and_eq_true, decide_eq_true_eq] at h
      rcases h with h | ⟨-, h⟩
      · exact toNat_lt_of_isAlphanum (by simp [Char.isAlphanum, h])
      · exact Nat.lt_of_le_of_lt (UInt32.le_iff_toNat_le.mp h) (by decide)
    exact forall_ascii (P := fun d => isLowerHex d = true → d ∈ "0123456789abcdef".toList)
      (by decide) hascii h
  · have hall : "0123456789abcdef".toList.all isLowerHex = true := by decide
    exact List.all_eq_true.mp hall c

theorem IsDigest.not_mem {s : String} (h : IsDigest s) : '\n' ∉ s.toList := by
  intro hmem
  have hdigit := h.2 _ hmem
  revert hdigit
  decide

/-- What is hashed has a digest. -/
theorem isDigest_sha256 (data : Bytes) : IsDigest (Hex.text (Hash.sha256 data)) := by
  constructor
  · simp [Hex.text, Hex.encode, Hex.ofByte, List.length_flatMap, Hash.length_sha256]
  · intro c hc
    obtain ⟨n, hn, rfl⟩ := Hex.exists_of_mem_text hc
    have hall : ∀ m < 16, Hex.digit .lower m ∈ "0123456789abcdef".toList := by decide
    exact hall n hn

/-! ## Texts that are taken for digests -/

/-- A digest, with nothing after it or with one line end, is taken. -/
theorem isDigestText_of_isDigest {s d : String} {rest : List Char} (hd : IsDigest d)
    (hs : s.toList = d.toList ++ rest) (hrest : rest = [] ∨ rest = ['\n']) :
    isDigestText s = true := by
  have hdigits : ∀ c ∈ d.toList, isLowerHex c = true := fun c hc => isLowerHex_iff.mpr (hd.2 c hc)
  have hlength : d.toList.length = 64 := by rw [String.length_toList, hd.1]
  have htake : s.toList.takeWhile isLowerHex = d.toList := by
    rw [hs, List.takeWhile_append_of_pos hdigits]
    rcases hrest with rfl | rfl <;> exact List.append_nil _
  have hdrop : s.toList.drop 64 = rest := by
    rw [hs, List.drop_left' hlength]
  rw [isDigestText, htake, hdrop]
  rcases hrest with rfl | rfl <;> simp [hlength]

theorem exists_isDigest {s : String} (h : isDigestText s = true) :
    ∃ d rest, IsDigest d ∧ s.toList = d.toList ++ rest ∧ (rest = [] ∨ rest = ['\n']) := by
  simp only [isDigestText, Bool.and_eq_true, Bool.or_eq_true, beq_iff_eq] at h
  obtain ⟨hlength, hrest⟩ := h
  refine ⟨String.ofList (s.toList.takeWhile isLowerHex), s.toList.drop 64, ⟨?_, ?_⟩, ?_, hrest⟩
  · rw [String.length_ofList, hlength]
  · intro c hc
    rw [String.toList_ofList] at hc
    exact isLowerHex_iff.mp (List.mem_takeWhile_imp hc)
  · rw [String.toList_ofList, ← hlength]
    exact (List.prefix_iff_eq_append.mp (List.takeWhile_prefix _)).symm

/-- A text is taken for a digest just when it is one, perhaps with a line end after it. -/
theorem isDigestText_iff {s : String} : isDigestText s = true ↔ IsDigest s ∨ IsEndedDigest s := by
  constructor
  · intro h
    obtain ⟨d, rest, hd, hs, rfl | rfl⟩ := exists_isDigest h
    · rw [List.append_nil, String.toList_inj] at hs
      exact .inl (hs ▸ hd)
    · exact .inr ⟨d, hd, by rw [← String.toList_inj, hs, String.toList_append]; rfl⟩
  · rintro (h | ⟨d, hd, rfl⟩)
    · exact isDigestText_of_isDigest h (List.append_nil _).symm (.inl rfl)
    · exact isDigestText_of_isDigest hd String.toList_append (.inr rfl)

theorem ofDigest_eq_ok_iff {s : String} {p : Payload} :
    Payload.ofDigest s = .ok p ↔ ∃ d : Digest, d.text = s ∧ p = .digest d := by
  unfold Payload.ofDigest
  split
  · next h =>
      constructor
      · rintro ⟨⟩
        exact ⟨⟨s, h⟩, rfl, rfl⟩
      · rintro ⟨d, rfl, rfl⟩
        rfl
  · next h =>
      constructor
      · rintro ⟨⟩
      · rintro ⟨d, rfl, -⟩
        exact absurd d.wellFormed h

/-! ## Hashes -/

/-- The hash is one of the two words or a digest. -/
def Payload.IsWord (p : Payload) : Prop :=
  p.hash = unsignedWord ∨ p.hash = streamingWord ∨ IsDigest p.hash

theorem Payload.IsWord.not_mem {p : Payload} (h : p.IsWord) : '\n' ∉ p.hash.toList := by
  rcases h with h | h | h
  · rw [h]
    decide
  · rw [h]
    decide
  · exact h.not_mem

/-- A hash is a word, or it is a digest with a line end that a caller gave. -/
theorem Payload.hash_cases (p : Payload) : p.IsWord ∨ IsEndedDigest p.hash := by
  cases p with
  | unsigned => exact .inl (.inl rfl)
  | bytes data => exact .inl (.inr (.inr (isDigest_sha256 data)))
  | streaming => exact .inl (.inr (.inl rfl))
  | digest d => exact (isDigestText_iff.mp d.wellFormed).imp_left fun h => .inr (.inr h)

theorem Payload.isWord_iff {p : Payload} : p.IsWord ↔ '\n' ∉ p.hash.toList := by
  refine ⟨Payload.IsWord.not_mem, fun h => p.hash_cases.resolve_right ?_⟩
  rintro ⟨d, -, hd⟩
  apply h
  rw [hd, String.toList_append]
  exact List.mem_append_right _ List.mem_cons_self

/-- A text is taken for a digest just when it is one, perhaps with a line end after it, and refused
otherwise; what is taken is the hash. So the hash of a payload is one of the two words or a digest,
or a digest with a line end. What is signed of a request that names no hash itself ends with it, and
it is the last line there unless it has that line end. -/
theorem payload_hash_words (given : String) (p : Payload) :
    ((∃ q, Payload.ofDigest given = .ok q) ↔ IsDigest given ∨ IsEndedDigest given) ∧
    (∀ q, Payload.ofDigest given = .ok q → q.hash = given) ∧
    (∀ fault, Payload.ofDigest given = .error fault → fault = ⟨given⟩) ∧
    (p.IsWord ∨ IsEndedDigest p.hash) ∧
    (∀ (s : Signer) (r : Http.Request) text, s.payload = some p →
      r.headers.get? contentHashHeader = none → .canonicalRequest text ∈ (s.addSignature r).log →
        (∃ lines : String, text = lines ++ "\n" ++ p.hash) ∧
          (lastLine text = p.hash ↔ p.IsWord)) := by
  refine ⟨?_, fun q hq => ?_, fun fault hfault => ?_, p.hash_cases, ?_⟩
  · rw [← isDigestText_iff]
    constructor
    · rintro ⟨q, hq⟩
      obtain ⟨d, rfl, -⟩ := ofDigest_eq_ok_iff.mp hq
      exact d.wellFormed
    · intro h
      exact ⟨_, ofDigest_eq_ok_iff.mpr ⟨⟨given, h⟩, rfl, rfl⟩⟩
  · obtain ⟨d, rfl, rfl⟩ := ofDigest_eq_ok_iff.mp hq
    rfl
  · unfold Payload.ofDigest at hfault
    split at hfault
    · cases hfault
    · exact (Except.error.inj hfault).symm
  · intro s r text hp hheader htext
    obtain ⟨lines, rfl⟩ := payloadLine_of_mem_log htext
    have hline : s.payloadLine r = p.hash := by
      rw [Signer.payloadLine, hheader, Option.getD_none, Signer.payloadHash, hp]
    rw [hline, lastLine_append, lastLine_eq_self_iff, Payload.isWord_iff]
    exact ⟨⟨lines, rfl⟩, Iff.rfl⟩

/-! ### A digest that ends a line -/

section

open Verification

/-- Sixty-four zeros. -/
def Sample.zeros : String := String.ofList (List.replicate 64 '0')

theorem isDigestText_endedZeros : isDigestText (Sample.zeros ++ "\n") = true := by decide

/-- The payload of a digest that ends a line. -/
def Sample.endedDigest : Payload := .digest ⟨Sample.zeros ++ "\n", isDigestText_endedZeros⟩

def Sample.digestSigner : Signer :=
  { Sample.signer Pipeline.Sample.keys with payload := some Sample.endedDigest }

/-- Sixty-four zeros and a line end are taken for a digest although they are none, and what is
signed with that digest ends with an empty line. -/
theorem digest_ends_line :
    ¬IsDigest (Sample.zeros ++ "\n") ∧
    Payload.ofDigest (Sample.zeros ++ "\n") = .ok Sample.endedDigest ∧
    ¬Sample.endedDigest.IsWord ∧
    ∃ text,
      .canonicalRequest text ∈ (Sample.digestSigner.addSignature Pipeline.Sample.readRequest).log ∧
      Sample.digestSigner.Signs Pipeline.Sample.readRequest text ∧ lastLine text = "" := by
  have hword : ¬Sample.endedDigest.IsWord := by
    rw [Payload.isWord_iff]
    decide
  obtain ⟨parts, hurl, hparts⟩ := Pipeline.split_reading "/a.txt" (by intro c hc; cases hc; rfl)
  have hsigned : (Sample.digestSigner.addSignature Pipeline.Sample.readRequest).failure = none :=
    failure_addSignature_of_hosted rfl rfl hurl hparts rfl rfl
  obtain ⟨text, hmem, hsigns⟩ := exists_signs hsigned
  have hline : Sample.digestSigner.payloadLine Pipeline.Sample.readRequest =
      Sample.zeros ++ "\n" := by
    decide
  refine ⟨by decide, rfl, hword, text, hmem, hsigns, ?_⟩
  obtain ⟨lines, rfl⟩ := payloadLine_of_mem_log hmem
  rw [lastLine_append, hline]
  decide

end

end UrlSigning.Signing
