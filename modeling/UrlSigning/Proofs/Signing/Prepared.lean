import UrlSigning.Proofs.Signing.Names
import UrlSigning.Proofs.Signing.Parameters
import UrlSigning.Proofs.Verification.Presigning

/-!
# The request that is signed

What is signed is not the request that the signer is handed but the one that it has prepared, and
what comes out is that one with a signature. A signature that was made is followed here through
these three requests: which fields were signed, that none of them is lost when the signature is put
in, and which names the query tells a verifier.
-/

namespace UrlSigning.Signing

open Http

/-- Signing prepared the request, signed the fields of what was prepared and put the signature into
that. -/
def SignedThrough (config : Config) (credentials : Option Credentials) (now : DateTime)
    (r prepared : Request) (fields : List SignedField) (signed : Request) : Prop :=
  ∃ c s canonical text, credentials = some c ∧ Signer.ofConfig config c now = .ok s ∧
    s.prepare (c.withoutToken config.options.omitToken) r = (prepared, none) ∧
    fieldsToSign prepared = .ok fields ∧ canonicalRequest s.form prepared = .ok canonical ∧
    stringToSign s.stamp s.scope canonical = .ok text ∧
    s.inject (c.withoutToken config.options.omitToken) prepared
      (signature (c.withoutToken config.options.omitToken).secret s.scope text) = .ok signed

section

variable {config : Config} {credentials : Option Credentials} {now : DateTime}
  {r prepared signed : Request} {fields : List SignedField} {s : Signer} {c : Credentials}

/-- A signature that was made was made in these steps. -/
theorem exists_signedThrough (h : (sign config credentials now r).failure = none) :
    ∃ prepared fields, SignedThrough config credentials now r prepared fields
      (sign config credentials now r).request := by
  rcases sign_cases config credentials now r with
    ⟨-, hsign⟩ | ⟨_, _, -, -, hsign⟩ | ⟨c, s, hc, hs, hsign⟩ <;> rw [hsign] at h ⊢
  · cases h
  · cases h
  obtain ⟨c', prepared, hown, hprepare, hsigned⟩ :=
    (silent_or_signPrepared s r).resolve_left fun hsilent => hsilent.1 h
  cases hown.symm.trans (of_ofConfig hs).1
  rw [failure_behind, hsigned] at h
  rw [request_behind, hsigned]
  obtain ⟨canonical, text, hcanonical, htext, hinject⟩ := signPrepared_eq_ok h
  obtain ⟨-, fields, -, -, hfields, -⟩ := canonicalRequest_eq_ok hcanonical
  exact ⟨prepared, fields, c, s, canonical, text, hc, hs, hprepare, hfields, hcanonical, htext,
    hinject⟩

namespace SignedThrough

theorem fields_eq (h : SignedThrough config credentials now r prepared fields signed) :
    fieldsToSign prepared = .ok fields := by
  obtain ⟨_, _, _, _, -, -, -, hfields, -⟩ := h
  exact hfields

/-- Preparing keeps the names of the headers distinct. -/
theorem apart {R : String → String → Prop} (hR : ∀ a b, R a b → Headers.sameName a b = true)
    (h : SignedThrough config credentials now r prepared fields signed)
    (hd : r.headers.Apart R) : prepared.headers.Apart R := by
  obtain ⟨c, s, -, -, -, -, hprepare, -⟩ := h
  have hprepared : (s.prepare (c.withoutToken config.options.omitToken) r).1.headers.Apart R :=
    apart_prepare hR hd
  rwa [hprepare] at hprepared

/-- For a signature in the query, only the content type of a form is taken out of the headers. -/
theorem headers_of_query (h : SignedThrough config credentials now r prepared fields signed)
    (hlocation : config.options.location = .query) :
    prepared.headers = Signer.dropFormType r.headers := by
  obtain ⟨c, s, -, -, -, hs, hprepare, -⟩ := h
  unfold Signer.prepare at hprepare
  rw [(of_ofConfig hs).2, hlocation] at hprepare
  dsimp only at hprepare
  unfold Signer.prepareQuery at hprepare
  dsimp only at hprepare
  split at hprepare <;> cases hprepare
  rfl

/-- The signature leaves the headers as they are, or is added to them as one more, where there was
none of its name. -/
theorem headers_signed (h : SignedThrough config credentials now r prepared fields signed) :
    signed.headers = prepared.headers ∨
      prepared.headers.has "Authorization" = false ∧
        ∃ value, signed.headers = prepared.headers.add "Authorization" value := by
  obtain ⟨c, s, canonical, text, -, -, hprepare, -, -, -, hinject⟩ := h
  unfold Signer.inject at hinject
  split at hinject
  · next hlocation =>
      obtain ⟨value, -, hinject⟩ := bind_eq_ok.mp hinject
      cases hinject
      have hnone := has_authorization_prepare (c := c.withoutToken config.options.omitToken)
        (r := r) hlocation
      rw [hprepare] at hnone
      exact .inr ⟨hnone, value, rfl⟩
  · cases hinject
    exact .inl rfl

/-- Under each signed name but the host, the signed request has the fields that were signed. -/
theorem filter_fields (h : SignedThrough config credentials now r prepared fields signed)
    {name : String} (hname : name ∈ fields.map (·.1)) (hhost : name ≠ "host") :
    (signed.headers.fields.filter fun f => Headers.sameName f.1 name) =
      prepared.headers.fields.filter fun f => Headers.sameName f.1 name := by
  rcases h.headers_signed with hsame | ⟨hnone, value, hadded⟩
  · rw [hsame]
  · -- the signature is no signed field
    obtain ⟨-, f, hf, rfl⟩ := Verification.exists_of_mem_names h.fields_eq hname hhost
    have hfield := List.any_eq_false.mp hnone f hf
    have hother : Headers.sameName "Authorization" (Text.lower f.1) = false := by
      simp only [Headers.sameName, Text.lower_lower, beq_iff_eq, beq_eq_false_iff_ne] at hfield ⊢
      exact Ne.symm hfield
    rw [hadded, Headers.add, List.filter_append]
    simp [hother]

end SignedThrough

/-! ## The names that a verifier is told -/

theorem signedNames_congr {fields fields' : List SignedField}
    (h : fields.map (·.1) = fields'.map (·.1)) : signedNames fields = signedNames fields' := by
  have hnames (fields : List SignedField) : (fields.map fun f => Text.trim (Text.lower f.1)) =
      (fields.map (·.1)).map fun name => Text.trim (Text.lower name) := by
    rw [List.map_map]
    rfl
  rw [signedNames, hnames, h, ← hnames, ← signedNames]

/-- The last value of the parameter for signed headers names the fields that were signed. -/
theorem SignedThrough.signedHeaders
    (h : SignedThrough config credentials now r prepared fields signed)
    (hlocation : config.options.location = .query)
    (hsigned : (sign config credentials now r).failure = none)
    (hrequest : (sign config credentials now r).request = signed) :
    ∃ q, Url.split signed.url = .ok q ∧
      (Url.Query.valuesOf "X-Amz-SignedHeaders" (Url.Query.read q.query)).getLast? =
        some (signedNames fields) := by
  have hheaders := h.headers_of_query hlocation
  have hfields := h.fields_eq
  obtain ⟨c, s, -, -, rfl, hs, -⟩ := h
  obtain ⟨hfailure, hsame⟩ := Verification.sign_of_ofConfig hs r
  rw [hfailure] at hsigned
  rw [hsame] at hrequest
  have hc := (of_ofConfig hs).1
  have hquery := (of_ofConfig hs).2.trans hlocation
  obtain ⟨url, -, -, hurl, -⟩ := addSignature_query hquery hc hsigned
  obtain ⟨-, -, parts, -, -, -, hparts, -⟩ := queryUrl_eq_ok hurl
  change Url.split r.url = .ok parts at hparts
  obtain ⟨fields', credential, signature, q, hfields', -, hq, hgives⟩ :=
    split_addSignature hquery hc hparts hsigned
  -- the parameters are put in before the signature is made, when only the URL is another
  have hnames : fields'.map (·.1) = fields.map (·.1) :=
    Verification.names_eq_of_headers_eq hfields hfields' hheaders.symm
  refine ⟨q, hrequest ▸ hq, ?_⟩
  rw [hgives.valuesOf (by decide), Url.Query.valuesOf_append, valuesOf_signedHeaders,
    List.getLast?_concat, signedNames_congr hnames]

end

end UrlSigning.Signing
