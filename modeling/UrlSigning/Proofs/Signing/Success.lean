import UrlSigning.Proofs.Http.Headers
import UrlSigning.Proofs.Signing.Signer
import UrlSigning.Proofs.Url.Hosted
import UrlSigning.Proofs.Verification.Signature

/-!
# Signing that cannot fail

A request whose URL is one of the web and names a host can always be signed in its query, whatever
its path and its headers are, if the scope can be written. In a header it can be signed as well, if
it has no date of its own, or one that can be rewritten.
-/

namespace UrlSigning.Signing

open Http Verification

theorem exists_joinScope {items : List Json} (h : ∀ item ∈ items, ∃ s, item = .text s) :
    ∃ text, joinScope items = .ok text := by
  have hitem : ∀ x ∈ items.zipIdx, ∃ s, scopeItem x.1 x.2 = .ok s := by
    intro x hx
    obtain ⟨s, hs⟩ := h x.1 (List.fst_mem_of_mem_zipIdx hx)
    exact ⟨s, by rw [scopeItem, hs]; rfl⟩
  obtain ⟨texts, htexts⟩ := exists_mapM_eq_ok hitem
  exact ⟨_, bind_eq_ok.mpr ⟨texts, htexts, rfl⟩⟩

theorem exists_text {item : Json} {s : String} (h : item.text? = some s) :
    ∃ text, item = .text text := by
  cases item with
  | text s => exact ⟨s, rfl⟩
  | _ => cases h

/-- The scope of a signature can be written, with the key or without it, if the region and the key
are text. -/
theorem exists_scope {s : Signer} {access : Json} (haccess : ∃ text, access = .text text)
    (hregion : ∃ text, s.region = .text text) :
    (∃ credential, s.scope.credential access = .ok credential) ∧
      ∃ scopeText, s.scope.text = .ok scopeText := by
  obtain ⟨region, hregion⟩ := hregion
  have hscope : ∀ item ∈ [Json.text s.scope.date, s.region, s.service, scopeEnd],
      ∃ text, item = .text text := by
    intro item hitem
    simp only [List.mem_cons, List.not_mem_nil, or_false] at hitem
    rcases hitem with rfl | rfl | rfl | rfl
    · exact ⟨_, rfl⟩
    · exact ⟨region, hregion⟩
    · exact ⟨_, rfl⟩
    · exact ⟨_, rfl⟩
  exact ⟨exists_joinScope (List.forall_mem_cons.mpr ⟨haccess, hscope⟩), exists_joinScope hscope⟩

/-- All signed fields of a request whose URL names a host have values. -/
theorem exists_fieldsToSign {r : Request} {host : String}
    (h : Url.host? r.url = .ok (some host)) :
    ∃ fields, fieldsToSign r = .ok fields ∧ ∀ f ∈ fields, f.2.isSome = true := by
  by_cases hnamed : ∃ f ∈ ownFields r, Headers.sameName f.1 "host" = true
  · exact ⟨ownFields r, fieldsToSign_of_host hnamed, fun f hf => isSome_of_mem_ownFields hf⟩
  · have hany : (ownFields r).any (fun f => Headers.sameName f.1 "host") = false := by
      rw [List.any_eq_false]
      intro f hf hname
      exact hnamed ⟨f, hf, hname⟩
    refine ⟨ownFields r ++ [("host", some host)], ?_, ?_⟩
    · show (if (ownFields r).any (fun f => Headers.sameName f.1 "host") then _ else _) = _
      rw [hany, h]
      rfl
    · intro f hf
      rcases List.mem_append.mp hf with hf | hf
      · exact isSome_of_mem_ownFields hf
      · rw [List.mem_singleton.mp hf]
        rfl

/-- A request that goes to a host of the web is signed in its query. -/
theorem failure_addSignature_of_hosted {s : Signer} {c : Credentials} {r : Request}
    {parts : Url.Parts} {credential scopeText : String} (hlocation : s.location = .query)
    (hc : s.credentials = some c) (hurl : Url.split r.url = .ok parts) (hparts : parts.IsHosted)
    (hcredential : s.scope.credential c.access = .ok credential)
    (hscope : s.scope.text = .ok scopeText) : (s.addSignature r).failure = none := by
  obtain ⟨host, hhost⟩ := Url.exists_host? hparts hurl
  obtain ⟨fields, hfields, -⟩ := exists_fieldsToSign (r := withoutFormType r) hhost
  obtain ⟨own, -, hquery⟩ := queryUrl_eq (r := withoutFormType r) hfields hcredential hurl
  -- with the parameters in its query, the URL names the host that it named before
  obtain ⟨joined, hjoined, hhosted⟩ := (hparts.withQuery (Url.Query.write
    (own ++ s.authParameters c credential (signedNames fields)))).exists_split
  obtain ⟨host', hhost'⟩ := Url.exists_host? hhosted hjoined
  obtain ⟨fields', hfields', hvalues⟩ :=
    exists_fieldsToSign (r := { withoutFormType r with url := _ }) hhost'
  obtain ⟨canonical, hcanonical⟩ := exists_canonicalRequest s.form
    (r := { withoutFormType r with url := _ }) hjoined hfields' hvalues
  exact failure_addSignature_eq_none hlocation hc hquery hcanonical
    (bind_eq_ok.mpr ⟨scopeText, hscope, rfl⟩)

/-! ## Signatures in a header -/

section

variable {s : Signer} {c : Credentials} {r : Request} {parts : Url.Parts} {host : String}

/-- A request is prepared for a signature in a header if a date of its own can be rewritten. -/
theorem exists_prepare_headers (hlocation : s.location = .headers)
    (hdate : r.headers.has "Date" = true → ∃ date, Time.Stamp.readBack s.time = .ok date) :
    ∃ h, s.prepare c r = ({ r with headers := h }, none) := by
  have hset : ∃ h, s.setDate (r.headers.erase "Authorization") = (h, none) := by
    unfold Signer.setDate
    split
    · next herased =>
        simp only [Headers.has_erase_eq, Bool.and_eq_true] at herased
        obtain ⟨date, hread⟩ := hdate herased.1
        rw [hread]
        exact ⟨_, rfl⟩
    · exact ⟨_, rfl⟩
  obtain ⟨h, hset⟩ := hset
  unfold Signer.prepare Signer.prepareHeaders
  rw [hlocation, hset]
  exact ⟨_, rfl⟩

/-- A request that goes to a host, and has no date of its own that cannot be rewritten, is signed in
a header. -/
theorem failure_addSignature_headers {credential scopeText : String}
    (hlocation : s.location = .headers) (hc : s.credentials = some c)
    (hdate : r.headers.has "Date" = true → ∃ date, Time.Stamp.readBack s.time = .ok date)
    (hurl : Url.split r.url = .ok parts) (hhost : Url.host? r.url = .ok (some host))
    (hcredential : s.scope.credential c.access = .ok credential)
    (hscope : s.scope.text = .ok scopeText) : (s.addSignature r).failure = none := by
  obtain ⟨h, hprepare⟩ := exists_prepare_headers (c := c) hlocation hdate
  -- preparing leaves the URL, and with it the host
  obtain ⟨fields, hfields, hvalues⟩ := exists_fieldsToSign (r := { r with headers := h }) hhost
  obtain ⟨canonical, hcanonical⟩ :=
    exists_canonicalRequest s.form (r := { r with headers := h }) hurl hfields hvalues
  have htext : ∃ text, stringToSign s.stamp s.scope canonical = .ok text :=
    ⟨_, bind_eq_ok.mpr ⟨scopeText, hscope, rfl⟩⟩
  obtain ⟨text, htext⟩ := htext
  have hinject (signature : String) :
      ∃ signed, s.inject c { r with headers := h } signature = .ok signed := by
    unfold Signer.inject Signer.authorization
    rw [hlocation, hcredential, hfields]
    exact ⟨_, rfl⟩
  obtain ⟨signed, hinject⟩ := hinject (signature c.secret s.scope text)
  rw [Signer.addSignature, hc]
  dsimp only
  rw [hprepare]
  dsimp only
  rw [Signer.signPrepared, hcanonical]
  dsimp only
  rw [htext]
  dsimp only
  rw [hinject]

end

/-! ## Configurations that can be signed with -/

section

variable {config : Config} {c : Credentials} {now time : DateTime} {n : Int} {r : Request}
  {parts : Url.Parts} {host : String}

/-- A configuration with an expiry that is not refused, used at a time in the calendar, makes a
signer that can write its scope if the region and the key are text. -/
theorem exists_signer (hexpires : config.options.expirySeconds = .ok n)
    (htime : now.toUtc = .ok time) (haccess : ∃ text, c.access = .text text)
    (hregion : ∃ text, config.region = .text text) :
    ∃ s credential scopeText, Signer.ofConfig config c now = .ok s ∧ s.time = time ∧
      s.scope.credential (c.withoutToken config.options.omitToken).access = .ok credential ∧
      s.scope.text = .ok scopeText := by
  have haccess' : ∃ text, (c.withoutToken config.options.omitToken).access = .text text := by
    unfold Credentials.withoutToken
    split <;> exact haccess
  have hs := ofConfig_eq config c now
  rw [hexpires, htime] at hs
  obtain ⟨⟨credential, hcredential⟩, scopeText, hscope⟩ :=
    exists_scope (s := ⟨some (c.withoutToken config.options.omitToken), config.region,
      config.service, config.options.location, time, config.options.payload,
      config.options.normalizePath, config.options.encodePath, n⟩) haccess' hregion
  exact ⟨_, credential, scopeText, hs, rfl, hcredential, hscope⟩

theorem failure_sign_dated (hlocation : config.options.location = .headers)
    (htime : now.toUtc = .ok time) (haccess : ∃ text, c.access = .text text)
    (hregion : ∃ text, config.region = .text text)
    (hdate : r.headers.has "Date" = true → ∃ date, Time.Stamp.readBack time = .ok date)
    (hurl : Url.split r.url = .ok parts) (hhost : Url.host? r.url = .ok (some host)) :
    (sign config (some c) now r).failure = none := by
  have hexpires : config.options.expirySeconds = .ok Signer.defaultExpires := by
    rw [Options.expirySeconds, hlocation]
  obtain ⟨s, credential, scopeText, hs, hsTime, hcredential, hscope⟩ :=
    exists_signer hexpires htime haccess hregion
  obtain ⟨hc, hplace⟩ := of_ofConfig hs
  rw [sign, hs]
  exact failure_addSignature_headers (hplace.trans hlocation) hc (hsTime ▸ hdate) hurl hhost
    hcredential hscope

theorem failure_sign_headers (hlocation : config.options.location = .headers)
    (htime : now.toUtc = .ok time) (haccess : ∃ text, c.access = .text text)
    (hregion : ∃ text, config.region = .text text) (hdate : r.headers.has "Date" = false)
    (hurl : Url.split r.url = .ok parts) (hhost : Url.host? r.url = .ok (some host)) :
    (sign config (some c) now r).failure = none := by
  refine failure_sign_dated hlocation htime haccess hregion ?_ hurl hhost
  intro hdated
  cases hdate.symm.trans hdated

theorem failure_sign_query (hlocation : config.options.location = .query)
    (hexpires : config.options.expirySeconds = .ok n) (htime : now.toUtc = .ok time)
    (haccess : ∃ text, c.access = .text text) (hregion : ∃ text, config.region = .text text)
    (hurl : Url.split r.url = .ok parts) (hparts : parts.IsHosted) :
    (sign config (some c) now r).failure = none := by
  obtain ⟨s, credential, scopeText, hs, -, hcredential, hscope⟩ :=
    exists_signer hexpires htime haccess hregion
  obtain ⟨hc, hplace⟩ := of_ofConfig hs
  rw [sign, hs]
  exact failure_addSignature_of_hosted (hplace.trans hlocation) hc hurl hparts hcredential hscope

end

end UrlSigning.Signing
