import UrlSigning.Proofs.Signing.Parameters
import UrlSigning.Proofs.Signing.Success
import UrlSigning.Proofs.Verification.Presigning

/-!
# The signer of a presigned request

Without plugins of a caller, a request that is presigned is signed once, in its query, by a signer
with the credentials, the length and the start of the window, whatever the service is.
-/

namespace UrlSigning.Pipeline

open Signing

/-- The signer that presigns for a service, with the path as the service has it signed. -/
def signerOf (region : Json) (service : String) (payload : Payload) (c : Credentials)
    (expires : Int) (time : DateTime) : Signer :=
  ⟨some c, region, service, .query, time, some payload, (Options.forService service).normalizePath,
    (Options.forService service).encodePath, expires⟩

/-- There is a signer for presigning if the window can be written in seconds and the time in
universal time. -/
theorem ofConfig_presigned (region : Json) (service : String) (window : Window) (payload : Payload)
    (c : Credentials) (now : DateTime) :
    Signer.ofConfig (presigned window payload (Plugin.setupConfig region service none)) c now =
      ((expirySeconds (some window.length)).mapError .signing >>= fun expires =>
        (now.toUtc).mapError .time >>= fun time =>
          .ok (signerOf region service payload c expires time)) := by
  rw [ofConfig_eq]
  rfl

/-- The signer with the credentials presigned the operation for the window. -/
structure IsPresignedBy (o : Operation) (window : Window) (c : Credentials) (s : Signer)
    (m : Presigned) : Prop where
  location : s.location = .query
  credentials : s.credentials = some c
  expires : expirySeconds (some window.length) = .ok s.expires
  time : window.start.toUtc = .ok s.time
  signed : (s.addSignature (o.serialize ⟨true, true⟩)).failure = none
  url : m.url = (s.addSignature (o.serialize ⟨true, true⟩)).request.url
  finish : ∃ finish, window.finish = .ok finish ∧ m.expiresAt = some finish

section

variable {w : Surroundings} {o : Operation} {credentials : Option Credentials} {region : Json}
  {service : String} {window : Window} {payload : Option Payload} {m : Presigned}
  {c : Credentials} {s : Signer} {parts : Url.Parts}

/-- What is presigned was signed by the signer that presigns for the service. -/
theorem exists_signerOf
    (h : (presign w o credentials region service window payload []).result = .ok m) :
    ∃ c expires time, credentials = some c ∧ IsPresignedBy o window c
      (signerOf region service (payload.getD .unsigned) c expires time) m := by
  rw [result_presign_alone] at h
  obtain ⟨signed, hsigned, h⟩ := bind_eq_ok.mp h
  obtain ⟨finish, hfinish, h⟩ := bind_eq_ok.mp h
  cases h
  obtain ⟨c, s, rfl, hs, hfailure, rfl⟩ := Verification.signer_of_resultOf hsigned
  rw [ofConfig_presigned] at hs
  obtain ⟨expires, hexpires, hs⟩ := bind_eq_ok.mp hs
  obtain ⟨time, htime, hs⟩ := bind_eq_ok.mp hs
  obtain rfl := Except.ok.inj hs
  exact ⟨c, expires, time, rfl, rfl, rfl, mapError_eq_ok.mp hexpires, mapError_eq_ok.mp htime,
    hfailure, rfl, finish, mapError_eq_ok.mp hfinish, rfl⟩

theorem exists_isPresignedBy
    (h : (presign w o credentials region service window payload []).result = .ok m) :
    ∃ c s, credentials = some c ∧ IsPresignedBy o window c s m := by
  obtain ⟨c, expires, time, hc, hs⟩ := exists_signerOf h
  exact ⟨c, _, hc, hs⟩

/-- Nothing fails when what is presigned is signed. -/
theorem failure_sign_of_presign
    (h : (presign w o credentials region service window payload []).result = .ok m) :
    (sign (presigned window (payload.getD .unsigned) (Plugin.setupConfig region service none))
      credentials window.start (o.serialize ⟨true, true⟩)).failure = none := by
  rw [result_presign_alone] at h
  obtain ⟨signed, hsigned, -⟩ := bind_eq_ok.mp h
  unfold resultOf at hsigned
  split at hsigned
  · next hnone => exact hnone
  · cases hsigned

/-- The URL of a presigned request has the parts of the operation's URL, with parameters and a
signature. -/
theorem IsPresignedBy.split (h : IsPresignedBy o window c s m)
    (hurl : Url.split o.url = .ok parts) :
    ∃ credential names signature q, Url.split m.url = .ok q ∧
      GivesSignature parts (Url.Query.firstValues (Url.Query.read parts.query) ++
        s.authParameters c credential names) signature q := by
  obtain ⟨fields, credential, signature, q, -, -, hq, hgives⟩ :=
    split_addSignature (r := o.serialize ⟨true, true⟩) h.location h.credentials hurl h.signed
  exact ⟨credential, signedNames fields, signature, q, h.url ▸ hq, hgives⟩

/-- The URL of an operation that is presigned can be read. -/
theorem IsPresignedBy.exists_parts (h : IsPresignedBy o window c s m) :
    ∃ parts, Url.split o.url = .ok parts := by
  obtain ⟨url, -, -, hquery, -⟩ := addSignature_query h.location h.credentials h.signed
  obtain ⟨-, -, parts, -, -, -, hparts, -⟩ := queryUrl_eq_ok hquery
  exact ⟨parts, hparts⟩

/-- An operation on a host of the web is presigned, if what goes into the scope of a signature is
text and the instants of the window are in the calendar. -/
theorem exists_presign {n : Int} {time finish : DateTime} (service : String)
    (payload : Option Payload) (haccess : ∃ text, c.access = .text text)
    (hregion : ∃ text, region = .text text)
    (hexpires : expirySeconds (some window.length) = .ok n) (htime : window.start.toUtc = .ok time)
    (hfinish : window.finish = .ok finish) (hurl : Url.split o.url = .ok parts)
    (hparts : parts.IsHosted) :
    ∃ m, (presign w o (some c) region service window payload []).result = .ok m := by
  obtain ⟨⟨credential, hcredential⟩, scopeText, hscopeText⟩ :=
    exists_scope (s := signerOf region service (payload.getD .unsigned) c n time) haccess hregion
  have hsigned := failure_addSignature_of_hosted (r := o.serialize ⟨true, true⟩) rfl rfl hurl hparts
    hcredential hscopeText
  have hs : Signer.ofConfig (presigned window (payload.getD .unsigned)
      (Plugin.setupConfig region service none)) c window.start =
        .ok (signerOf region service (payload.getD .unsigned) c n time) := by
    rw [ofConfig_presigned, hexpires, htime]
    rfl
  obtain ⟨hfailure, -⟩ := Verification.sign_of_ofConfig hs (o.serialize ⟨true, true⟩)
  rw [result_presign_alone, resultOf, hfailure, hsigned]
  exact ⟨_, bind_eq_ok.mpr ⟨_, rfl, bind_eq_ok.mpr ⟨finish, mapError_eq_ok.mpr hfinish, rfl⟩⟩⟩

end

/-! ### Operations on a bucket -/

namespace Sample

/-- Reads whatever the rest of the URL says from a bucket. -/
def reading (rest : String) : Operation where
  method := "GET"
  url := "https" ++ "://" ++ "bucket.example.com" ++ rest

def keys : Credentials := ⟨"AKIDEXAMPLE", "wJalrXUtnFEMI", none⟩

/-- Reading an object in a bucket, as a request. -/
def readRequest : Http.Request := ⟨"GET", (reading "/a.txt").url, .empty, none⟩

/-- Signs in the query, with the paths of the store of objects, for as long as the expiry says. -/
def inQuery (expires : Option Duration) : Config :=
  ⟨"us-east-1", "s3",
    { expires := expires, location := .query, normalizePath := false, encodePath := false }⟩

end Sample

theorem namesHost_bucket : Url.NamesHost "bucket.example.com" where
  ends := List.forall_iff_forall_mem.mp (by decide +kernel)
  kept := List.forall_iff_forall_mem.mp (by decide +kernel)
  brackets := by decide +kernel
  equivalents := by decide +kernel
  host := by decide +kernel
  port := ⟨none, by decide +kernel⟩

theorem split_reading (rest : String) (hrest : Url.Follows rest.toList) :
    ∃ parts, Url.split (Sample.reading rest).url = .ok parts ∧ parts.IsHosted := by
  obtain ⟨parts, hurl, -, -, hparts⟩ := Url.split_web (.inr rfl) namesHost_bucket hrest
  exact ⟨parts, hurl, hparts⟩

/-- Whatever is read from the bucket, reading it is presigned for a window in the calendar. -/
theorem exists_presign_reading (rest : String) (window : Window) {n : Int} {time finish : DateTime}
    (hrest : Url.Follows rest.toList) (hexpires : expirySeconds (some window.length) = .ok n)
    (htime : window.start.toUtc = .ok time) (hfinish : window.finish = .ok finish) :
    ∃ m, (presign Sample.surroundings (Sample.reading rest) (some Sample.keys) "us-east-1" "s3"
      window none []).result = .ok m := by
  obtain ⟨parts, hurl, hparts⟩ := split_reading rest hrest
  exact exists_presign "s3" none ⟨_, rfl⟩ ⟨_, rfl⟩ hexpires htime hfinish hurl hparts

theorem exists_presign_hour (rest : String) (hrest : Url.Follows rest.toList) :
    ∃ m, (presign Sample.surroundings (Sample.reading rest) (some Sample.keys) "us-east-1" "s3"
      Sample.hour none []).result = .ok m :=
  exists_presign_reading rest Sample.hour hrest rfl rfl rfl

end UrlSigning.Pipeline
