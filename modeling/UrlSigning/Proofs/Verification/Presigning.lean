import UrlSigning.Proofs.Pipeline.Alone
import UrlSigning.Proofs.Verification.Signature

/-!
# Presigned requests verify

Whatever is presigned for the store of objects, with no plugins of a caller, is accepted by a
verifier that is sent the method, the URL and the headers and is told the secret, the region and
what was signed for the payload.
-/

namespace UrlSigning.Verification

open Http Signing Text Pipeline

/-! ## The signer of presigning -/

section

variable {c : Credentials} {region : Json} {window : Window} {payload : Payload} {r : Request}
  {now : DateTime}

/-- The signer that presigning makes. -/
theorem signer_of_presigned {s : Signer}
    (h : Signer.ofConfig (presigned window payload (Plugin.setupConfig region "s3" none)) c now =
      .ok s) :
    ∃ own, s.credentials = some own ∧ own.secret = c.secret ∧ s.region = region ∧
      s.service = "s3" ∧ s.location = .query ∧ s.payload = some payload ∧
      s.normalizePath = false ∧ s.encodePath = false := by
  obtain ⟨expires, -, h⟩ := bind_eq_ok.mp h
  obtain ⟨time, -, h⟩ := bind_eq_ok.mp h
  cases h
  refine ⟨_, rfl, ?_, rfl, rfl, rfl, rfl, rfl, rfl⟩
  unfold Credentials.withoutToken
  split <;> rfl

theorem sublist_addSignature {s : Signer} (hlocation : s.location = .query)
    (hc : s.credentials = some c) (h : (s.addSignature r).failure = none) :
    (s.addSignature r).request.headers.fields.Sublist r.headers.fields := by
  obtain ⟨url, canonical, text, -, -, -, hsigned⟩ := addSignature_query hlocation hc h
  rw [hsigned]
  exact sublist_dropFormType r.headers

theorem sign_of_ofConfig {config : Config} {s : Signer}
    (h : Signer.ofConfig config c now = .ok s) (r : Request) :
    (sign config (some c) now r).failure = (s.addSignature r).failure ∧
      (sign config (some c) now r).request = (s.addSignature r).request := by
  rw [sign_eq_of_ofConfig h]
  exact ⟨rfl, rfl⟩

theorem signer_of_resultOf {config : Config} {credentials : Option Credentials} {signed : Request}
    (h : resultOf (sign config credentials now r) = .ok signed) :
    ∃ c s, credentials = some c ∧ Signer.ofConfig config c now = .ok s ∧
      (s.addSignature r).failure = none ∧ (s.addSignature r).request = signed := by
  rcases credentials with _ | c
  · cases h
  rcases hs : Signer.ofConfig config c now with failure | s
  · rw [sign, hs] at h
    cases h
  obtain ⟨hfailure, hrequest⟩ := sign_of_ofConfig hs r
  rw [resultOf, hfailure, hrequest] at h
  rcases hf : (s.addSignature r).failure with _ | failure <;> rw [hf] at h <;> cases h
  exact ⟨c, s, rfl, hs, hf, rfl⟩

end

/-! ## Presigning and verifying -/

/-- Every request that is presigned for the store of objects verifies: if the URL of the operation
is one of the web, without a fragment and without parameters of a signature in its query, and if its
headers, none of which names the hash of the payload, have tokens for names and no name twice, then
a verifier that is told the secret, the region, the service and the hash of the payload works out
from the method, the URL and the headers just the signature that the URL carries. -/
theorem presigned_verifies {w : Surroundings} {o : Operation} {credentials : Option Credentials}
    {region : Json} {window : Window} {payload : Option Payload} {parts : Url.Parts} {m : Presigned}
    (hurl : Url.split o.url = .ok parts) (ho : IsVerifiable parts o.headers)
    (hdistinct : (Entries.keys o.headers).Nodup)
    (h : (presign w o credentials region "s3" window payload []).result = .ok m) :
    ∃ c text, credentials = some c ∧ signature? m = some text ∧
      (Verifier.of c region "s3" (payload.getD .unsigned)).recompute? m = some text := by
  rw [result_presign_alone] at h
  obtain ⟨signed, hsigned, h⟩ := bind_eq_ok.mp h
  obtain ⟨finish, -, h⟩ := bind_eq_ok.mp h
  cases h
  obtain ⟨c, s, rfl, hs, hfailure, rfl⟩ := signer_of_resultOf hsigned
  obtain ⟨own, hown, hsecret, hregion, hservice, hlocation, hpayload, hraw⟩ :=
    signer_of_presigned hs
  have hverifier : Verifier.of own s.region s.service (payload.getD .unsigned) =
      .of c region "s3" (payload.getD .unsigned) := by
    rw [Verifier.of, Verifier.of, hsecret, hregion, hservice]
  have hr : IsVerifiable parts (o.serialize ⟨true, true⟩).headers.fields := by
    rw [fields_serialize_of_omitted]
    exact ho
  -- without a name that comes twice, no header is lost when the headers are handed over
  have hdict : Entries.ofPairs (s.addSignature (o.serialize ⟨true, true⟩)).request.headers.fields =
      (s.addSignature (o.serialize ⟨true, true⟩)).request.headers.fields := by
    refine Entries.ofPairs_of_nodup (List.Nodup.sublist (List.Sublist.map _ ?_) hdistinct)
    rw [← fields_serialize_of_omitted o]
    exact sublist_addSignature hlocation hown hfailure
  obtain ⟨text, hsignature, hrecompute⟩ := recompute?_addSignature
    (r := o.serialize ⟨true, true⟩) (m := ⟨_, _, _, some finish⟩) hlocation hown hpayload hraw hurl
    hr (upper_upper o.method) hfailure rfl hdict rfl
  exact ⟨c, text, rfl, hsignature, hverifier ▸ hrecompute⟩

def sessionKeys : Credentials := ⟨"AKIDEXAMPLE", "wJalrXUtnFEMI", some "a/token="⟩

def namedUpload : Operation :=
  { Sample.upload with
    headers := [("Host", "bucket.example.com"), ("x-amz-meta-owner", "me")] }

def uploadParts : Url.Parts := ⟨"https", "bucket.example.com", "/a/b.txt", "part=1", ""⟩

theorem split_namedUpload : Url.split namedUpload.url = .ok uploadParts := by
  decide +kernel

theorem isVerifiable_namedUpload : IsVerifiable uploadParts namedUpload.headers where
  scheme := .inr rfl
  fragment := rfl
  query := by decide +kernel
  tokens := by
    intro f hf
    rcases List.mem_cons.mp hf with rfl | hf
    · exact ⟨by decide, List.all_eq_true.mp (by decide)⟩
    · rw [List.mem_singleton.mp hf]
      exact ⟨by decide, List.all_eq_true.mp (by decide)⟩
  noHash := by decide +kernel

def Sample.signer (c : Credentials) : Signer :=
  ⟨some c, "us-east-1", "s3", .query, Sample.noon, some .unsigned, false, false, 3600⟩

theorem signer_hour (c : Credentials) :
    Signer.ofConfig (presigned Sample.hour .unsigned (Plugin.setupConfig "us-east-1" "s3" none)) c
      Sample.noon = .ok (Sample.signer c) := by
  have hexpires : expirySeconds (some Sample.hour.length) = .ok 3600 := by decide +kernel
  have htime : Sample.noon.toUtc = .ok Sample.noon := by decide +kernel
  exact bind_eq_ok.mpr ⟨3600, mapError_eq_ok.mpr hexpires,
    bind_eq_ok.mpr ⟨Sample.noon, mapError_eq_ok.mpr htime, rfl⟩⟩

/-- An operation that names its host is presigned for an hour, if its URL can be read from what it
shows of its parts. -/
theorem exists_presigned_of_host {c : Credentials} {o : Operation} {parts shown : Url.Parts}
    {credential : String} (payload : Option Payload)
    (hurl : Url.split o.url = .ok parts) (ho : IsVerifiable parts o.headers)
    (hshown : Url.partsOf parts.scheme (Url.placeOf parts).toList "" = .ok shown)
    (hcredential : (Sample.signer c).scope.credential c.access = .ok credential)
    (hhost : ∃ f ∈ ownFields (withoutFormType (o.serialize ⟨true, true⟩)),
      Headers.sameName f.1 "host" = true)
    (hpayload : payload.getD .unsigned = .unsigned) :
    ∃ m, (presign Sample.surroundings o (some c) "us-east-1" "s3" Sample.hour payload []).result =
      .ok m := by
  have hr : IsVerifiable parts (o.serialize ⟨true, true⟩).headers.fields := by
    rw [fields_serialize_of_omitted]
    exact ho
  have hfailure : ((Sample.signer c).addSignature (o.serialize ⟨true, true⟩)).failure = none :=
    failure_addSignature_of_host rfl rfl hurl hr hshown hcredential rfl hhost
  have hfinish : Sample.hour.finish.isOk = true := by decide +kernel
  rw [result_presign_alone, hpayload, show Sample.hour.start = Sample.noon from rfl, resultOf,
    (sign_of_ofConfig (signer_hour c) _).1, hfailure]
  rcases hend : Sample.hour.finish with fault | finish <;> rw [hend] at hfinish
  · cases hfinish
  · exact ⟨_, bind_eq_ok.mpr ⟨_, rfl, bind_eq_ok.mpr ⟨finish, mapError_eq_ok.mpr hend, rfl⟩⟩⟩

theorem presigned_verifies_upload :
    ∃ m, (presign Sample.surroundings namedUpload (some sessionKeys) "us-east-1" "s3" Sample.hour
        none []).result = .ok m ∧
      ∃ c text, some sessionKeys = some c ∧ signature? m = some text ∧
        (Verifier.of c "us-east-1" "s3" ((none : Option Payload).getD .unsigned)).recompute? m =
          some text := by
  have hshown : Url.partsOf uploadParts.scheme (Url.placeOf uploadParts).toList "" =
      .ok { uploadParts with query := "" } := by
    decide +kernel
  have hhost : ("host", some "bucket.example.com") ∈
      ownFields (withoutFormType (namedUpload.serialize ⟨true, true⟩)) := by
    decide +kernel
  obtain ⟨m, hm⟩ := exists_presigned_of_host (c := sessionKeys) none split_namedUpload
    isVerifiable_namedUpload hshown rfl ⟨_, hhost, beq_self_eq_true _⟩ rfl
  exact ⟨m, hm, presigned_verifies split_namedUpload isVerifiable_namedUpload (by decide) hm⟩

end UrlSigning.Verification
