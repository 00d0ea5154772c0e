import UrlSigning.Proofs.Presigning.Path
import UrlSigning.Proofs.Signing.Repeated
import UrlSigning.Proofs.Text.Cut

/-!
# The payload that is signed

A canonical request ends with the line of the payload. What is written there is the hash of the
payload that was asked for only if no header of the request names a hash: a header that does is
copied into the line, whatever was asked for. To prepare a request changes neither, so the line is
that of the request as it came.
-/

namespace UrlSigning.Signing

open Http

/-! ## The last line -/

/-- The text after the last line end. -/
def lastLine (text : String) : String :=
  String.ofList (Text.afterLast '\n' text.toList)

theorem lastLine_append (lines line : String) :
    lastLine (lines ++ "\n" ++ line) = lastLine line := by
  have htext : (lines ++ "\n" ++ line).toList = lines.toList ++ '\n' :: line.toList := by simp
  rw [lastLine, htext, Text.afterLast_append_cons, lastLine]

theorem lastLine_eq_self_iff {text : String} : lastLine text = text ↔ '\n' ∉ text.toList := by
  constructor
  · intro h
    rw [← h, lastLine, String.toList_ofList]
    exact Text.not_mem_afterLast '\n' text.toList
  · intro h
    rw [lastLine, Text.afterLast_of_not_mem h, String.ofList_toList]

/-! ## What preparing leaves to be found -/

/-- The names of the fields that preparing a request may put in or take out. -/
def preparedNames : List String :=
  ["Authorization", "Date", "X-Amz-Date", "X-Amz-Security-Token", "content-type"]

section

variable {s : Signer} {c : Credentials} {r prepared : Request} {name : String}

theorem not_any_ownNames (hname : ∀ own ∈ preparedNames, Headers.sameName name own = false)
    (token : Option String) : (ownNames token).any (Headers.sameName name) = false := by
  rw [List.any_eq_false]
  intro own hown
  rw [Bool.not_eq_true]
  apply hname
  rcases List.mem_append.mp hown with hown | hown
  · have hsub : ["Authorization", "Date", "X-Amz-Date"] ⊆ preparedNames := by decide
    exact hsub hown
  · obtain ⟨f, hf, rfl⟩ := List.mem_map.mp hown
    rw [fst_of_mem_tokenFields hf]
    decide

theorem get?_of_prepareHeaders (hname : ∀ own ∈ preparedNames, Headers.sameName name own = false)
    (h : s.prepareHeaders c r = (prepared, none)) :
    prepared.headers.get? name = r.headers.get? name := by
  rcases hfield : s.dateField (r.headers.has "Date") with fault | field
  · have herror := prepareHeaders_eq_error (c := c) hfield
    rw [h] at herror
    cases herror
  rw [prepareHeaders_eq_ok hfield] at h
  cases h
  have hnew : ∀ f ∈ field :: tokenFields c.token, Headers.sameName f.1 name = false := by
    intro f hf
    have hown : f.1 ∈ preparedNames := by
      rcases List.mem_cons.mp hf with rfl | hf
      · rcases dateName_of_dateField hfield with hdate | hdate <;> rw [hdate] <;> decide
      · rw [fst_of_mem_tokenFields hf]
        decide
    rw [Headers.sameName_comm]
    exact hname _ hown
  rw [Headers.get?_append hnew, Headers.get?_without (not_any_ownNames hname c.token)]

theorem get?_dropFormType (hname : ∀ own ∈ preparedNames, Headers.sameName name own = false)
    (h : Headers) : (Signer.dropFormType h).get? name = h.get? name := by
  unfold Signer.dropFormType
  split
  · exact Headers.get?_erase (hname _ (by decide)) h
  · rfl

/-- Preparing a request leaves what is found under the other names. -/
theorem get?_of_prepare (hname : ∀ own ∈ preparedNames, Headers.sameName name own = false)
    (h : s.prepare c r = (prepared, none)) :
    prepared.headers.get? name = r.headers.get? name := by
  unfold Signer.prepare at h
  split at h
  · exact get?_of_prepareHeaders hname h
  · unfold Signer.prepareQuery at h
    dsimp only at h
    split at h <;> cases h
    exact get?_dropFormType hname r.headers

end

/-! ## The line of the payload -/

namespace Signer

/-- What is signed for the payload of a request: what the header says, or else the hash. -/
def payloadLine (s : Signer) (r : Request) : String :=
  (r.headers.get? contentHashHeader).getD (s.payloadHash r)

/-- The text is signed: what comes out is the prepared request with the signature of the text. -/
def Signs (s : Signer) (r : Request) (text : String) : Prop :=
  ∃ c prepared toSign, s.credentials = some c ∧ s.prepare c r = (prepared, none) ∧
    stringToSign s.stamp s.scope text = .ok toSign ∧
    s.inject c prepared (signature c.secret s.scope toSign) = .ok (s.addSignature r).request

end Signer

section

variable {s : Signer} {c : Credentials} {r prepared : Request} {text : String}

/-- The payload has the same line when the request is prepared. -/
theorem payloadLine_of_prepare (h : s.prepare c r = (prepared, none)) :
    s.payloadLine prepared = s.payloadLine r := by
  have hbody : prepared.body = r.body := by
    have hsame := sameMessage_prepare s c r
    rw [h] at hsame
    exact hsame.body
  have hhash : s.payloadHash prepared = s.payloadHash r := by
    unfold Signer.payloadHash
    rw [hbody]
  rw [Signer.payloadLine, get?_of_prepare (by decide) h, hhash, Signer.payloadLine]

/-- A canonical request ends with the line of the payload. -/
theorem payloadLine_of_canonicalRequest (h : canonicalRequest s.form r = .ok text) :
    ∃ lines : String, text = lines ++ "\n" ++ s.payloadLine r := by
  obtain ⟨parts, fields, lines, -, -, -, rfl⟩ := canonicalRequest_eq_ok h
  refine ⟨"\n".intercalate [Text.upper r.method,
    Url.Path.canonical s.form.normalizePath s.form.encodePath parts.path,
    Url.Query.sorted parts.query, "\n".intercalate lines ++ "\n", signedNames fields], ?_⟩
  simp only [String.intercalate_cons_cons, String.intercalate_singleton, String.append_assoc]
  rfl

/-- Whatever canonical request is told ends with the line of the payload. -/
theorem payloadLine_of_mem_log (h : .canonicalRequest text ∈ (s.addSignature r).log) :
    ∃ lines : String, text = lines ++ "\n" ++ s.payloadLine r := by
  rcases silent_or_signPrepared s r with ⟨-, hlog⟩ | ⟨c, prepared, -, hprepare, hsigned⟩
  · rw [hlog] at h
    cases h
  · rw [hsigned] at h
    rw [← payloadLine_of_prepare hprepare]
    exact payloadLine_of_canonicalRequest (canonicalRequest_of_mem_log h)

/-- What is told and nothing else is signed. -/
theorem exists_signs (h : (s.addSignature r).failure = none) :
    ∃ text, .canonicalRequest text ∈ (s.addSignature r).log ∧ s.Signs r text := by
  rcases silent_or_signPrepared s r with ⟨hfailure, -⟩ | ⟨c, prepared, hc, hprepare, hsigned⟩
  · exact absurd h hfailure
  rw [hsigned] at h
  obtain ⟨canonical, toSign, hcanonical, htoSign, hinject⟩ := signPrepared_eq_ok h
  obtain ⟨text, hmem⟩ := exists_mem_log h
  obtain rfl := Except.ok.inj (hcanonical.symm.trans (canonicalRequest_of_mem_log hmem))
  refine ⟨canonical, hsigned ▸ hmem, c, prepared, toSign, hc, hprepare, htoSign, ?_⟩
  rw [hsigned]
  exact hinject

/-- The line is the hash just when no header says something else. -/
theorem payloadLine_eq_iff :
    s.payloadLine r = s.payloadHash r ↔
      ∀ value, r.headers.get? contentHashHeader = some value → value = s.payloadHash r := by
  unfold Signer.payloadLine
  rcases r.headers.get? contentHashHeader with _ | value
  · simp
  · simp

end

/-- Whatever is signed, in a header or in the query, ends with the line of the payload, which is one
line unless it holds a line end itself. With a payload that was asked for, the line is the hash of
that payload, and without one a signature in the query covers the word for no payload, just when the
request has no header that names another hash. -/
theorem signs_payload_line (s : Signer) (r : Request) :
    (∀ text, .canonicalRequest text ∈ (s.addSignature r).log →
      (∃ lines : String, text = lines ++ "\n" ++ s.payloadLine r) ∧
        (lastLine text = s.payloadLine r ↔ '\n' ∉ (s.payloadLine r).toList)) ∧
    ((s.addSignature r).failure = none →
      ∃ text, .canonicalRequest text ∈ (s.addSignature r).log ∧ s.Signs r text) ∧
    (∀ payload, s.payload = some payload →
      (s.payloadLine r = payload.hash ↔
        ∀ value, r.headers.get? contentHashHeader = some value → value = payload.hash)) ∧
    (s.payload = none → s.location = .query →
      (s.payloadLine r = unsignedWord ↔
        ∀ value, r.headers.get? contentHashHeader = some value → value = unsignedWord)) := by
  refine ⟨fun text htext => ?_, exists_signs, fun payload hpayload => ?_, fun hnone hlocation => ?_⟩
  · obtain ⟨lines, rfl⟩ := payloadLine_of_mem_log htext
    rw [lastLine_append, lastLine_eq_self_iff]
    exact ⟨⟨lines, rfl⟩, Iff.rfl⟩
  · have hhash : s.payloadHash r = payload.hash := by rw [Signer.payloadHash, hpayload]
    rw [← hhash]
    exact payloadLine_eq_iff
  · have hhash : s.payloadHash r = unsignedWord := by
      rw [Signer.payloadHash, hnone, hlocation]
      rfl
    rw [← hhash]
    exact payloadLine_eq_iff

/-! ### A payload that is streamed -/

section

open Verification

/-- Puts an object into a bucket, with a header that names the hash of the payload. -/
def Sample.hashedUpload : Request :=
  ⟨"PUT", (Pipeline.Sample.reading "/a.txt").url, ⟨[(contentHashHeader, unsignedWord)]⟩, none⟩

def Sample.streamingSigner : Signer :=
  { Sample.signer Pipeline.Sample.keys with payload := some .streaming }

/-- The word for a streamed payload is asked for, and that for no payload is signed. -/
theorem header_replaces_payload :
    ∃ text, .canonicalRequest text ∈ (Sample.streamingSigner.addSignature Sample.hashedUpload).log ∧
      Sample.streamingSigner.Signs Sample.hashedUpload text ∧
      Sample.streamingSigner.payload = some .streaming ∧
      lastLine text = unsignedWord ∧ lastLine text ≠ Payload.streaming.hash := by
  obtain ⟨parts, hurl, hparts⟩ := Pipeline.split_reading "/a.txt" (by intro c hc; cases hc; rfl)
  have hsigned : (Sample.streamingSigner.addSignature Sample.hashedUpload).failure = none :=
    failure_addSignature_of_hosted rfl rfl hurl hparts rfl rfl
  obtain ⟨text, hmem, hsigns⟩ := exists_signs hsigned
  have hline : Sample.streamingSigner.payloadLine Sample.hashedUpload = unsignedWord := by decide
  have hlast : lastLine text = unsignedWord := by
    obtain ⟨lines, rfl⟩ := payloadLine_of_mem_log hmem
    rw [lastLine_append, hline, lastLine_eq_self_iff]
    decide
  refine ⟨text, hmem, hsigns, rfl, hlast, ?_⟩
  rw [hlast]
  decide

end

end UrlSigning.Signing
