import UrlSigning.Proofs.Presigning.Signer
import UrlSigning.Proofs.Signing.Repeated
import UrlSigning.Proofs.Signing.Secret

/-!
# Session tokens that are left out

A configuration may say that the session token is left out. A token that is not empty is then taken
out of the credentials, so that the rest is signed as with none. An empty one is not: a signature in
a header does not write it, but one in the query writes a parameter without a value. Whether signing
fails does not depend on it, since whatever can be read with one query can be read with any other.
-/

namespace UrlSigning.Signing

open Http

/-- The configuration with the session token left out. -/
def Config.omitting (config : Config) : Config :=
  { config with options := { config.options with omitToken := true } }

/-- The keys without a session token. -/
def Credentials.bare (c : Credentials) : Credentials := { c with token := none }

/-! ## Signatures in a header -/

section

variable {s : Signer} {c c' : Credentials} {r r' : Request}

/-- What is prepared is signed with the access key and the secret alone. -/
theorem signPrepared_congr (haccess : c.access = c'.access) (hsecret : c.secret = c'.secret) :
    (s.withKeys c).signPrepared c r = (s.withKeys c').signPrepared c' r := by
  have hbefore (access : Json) :
      (s.withKeys c).before access r = (s.withKeys c').before access r := by
    simp only [Signer.before, location_withKeys, scope_withKeys]
  simp only [Signer.signPrepared, inject_eq, location_withKeys, stamp_withKeys, scope_withKeys,
    form_withKeys, hbefore, haccess, hsecret]

/-- A token of which no header is written is no different from none. -/
theorem addSignature_headers_congr (hlocation : s.location = .headers)
    (haccess : c.access = c'.access) (hsecret : c.secret = c'.secret)
    (htoken : tokenFields c.token = tokenFields c'.token) :
    (s.withKeys c).addSignature r = (s.withKeys c').addSignature r := by
  have hset (h : Headers) : Signer.setToken c.token h = Signer.setToken c'.token h := by
    rw [setToken_eq, setToken_eq, htoken]
  have hprepare : (s.withKeys c).prepare c r = (s.withKeys c').prepare c' r := by
    simp only [Signer.prepare, Signer.prepareHeaders, location_withKeys, hlocation,
      setDate_withKeys, hset]
  simp only [Signer.addSignature, credentials_withKeys, hprepare,
    signPrepared_congr haccess hsecret]

/-! ## Signatures in the query -/

/-- Signing in the query fails where its URL, its canonical request or the scope does. -/
theorem failure_addSignature_query (hlocation : s.location = .query) (hc : s.credentials = some c) :
    (s.addSignature r).failure = error? (s.queryUrl c (withoutFormType r) >>= fun url =>
      canonicalRequest s.form { withoutFormType r with url := url } >>=
        stringToSign s.stamp s.scope) := by
  rcases hurl : s.queryUrl c (withoutFormType r) with failure | url
  · exact failure_addSignature_of_queryUrl hlocation hc hurl
  rw [addSignature_of_queryUrl hlocation hc hurl]
  show _ = error? (canonicalRequest s.form { withoutFormType r with url := url } >>= _)
  unfold Signer.signPrepared
  rcases canonicalRequest s.form { withoutFormType r with url := url } with failure | canonical
  · rfl
  show _ = error? (stringToSign s.stamp s.scope canonical)
  dsimp only
  rcases stringToSign s.stamp s.scope canonical with failure | text
  · rfl
  · unfold Signer.inject
    rw [hlocation]
    rfl

theorem error?_queryUrl_congr (haccess : c.access = c'.access) :
    error? ((s.withKeys c).queryUrl c r) = error? ((s.withKeys c').queryUrl c' r) := by
  simp only [Signer.queryUrl, scope_withKeys, haccess]
  refine error?_bind_congr rfl fun _ _ _ _ => ?_
  refine error?_bind_congr rfl fun _ _ _ _ => ?_
  refine error?_bind_congr rfl fun _ _ _ _ => ?_
  rw [error?_pure, error?_pure]

theorem error?_stringToSign (stamp : String) (scope : Scope) (canonical canonical' : String) :
    error? (stringToSign stamp scope canonical) = error? (stringToSign stamp scope canonical') := by
  unfold stringToSign
  refine error?_bind_congr rfl fun _ _ _ _ => ?_
  rw [error?_pure, error?_pure]

/-- Requests with the same headers that name one host and can both be read have canonical requests,
or fail to have them in the same way. -/
theorem error?_canonicalRequest_congr (form : CanonicalForm) (hheaders : r.headers = r'.headers)
    (hsplit : error? (Url.split r.url) = error? (Url.split r'.url))
    (hhost : Url.host? r.url = Url.host? r'.url) :
    error? (canonicalRequest form r) = error? (canonicalRequest form r') := by
  have hfields : fieldsToSign r = fieldsToSign r' := by
    unfold fieldsToSign
    rw [hheaders, hhost]
  unfold canonicalRequest
  refine error?_bind_congr (error?_mapError_congr hsplit _) fun _ _ _ _ => ?_
  rw [hfields]
  refine error?_bind_congr rfl fun fields _ hok hok' => ?_
  obtain rfl := Except.ok.inj (hok.symm.trans hok')
  refine error?_bind_congr rfl fun _ _ _ _ => ?_
  rw [error?_pure, error?_pure]

/-- The URL with the parameters of a signature is read, and names a host, as its place does. -/
theorem shown_of_queryUrl {url : String} (h : s.queryUrl c r = .ok url) :
    ∃ parts, Url.split r.url = .ok parts ∧
      error? (Url.split url) = error? (Url.split (Url.join parts.bare)) ∧
      Url.host? url = Url.host? (Url.join parts.bare) := by
  obtain ⟨fields, credential, parts, own, -, -, hparts, -, rfl⟩ := queryUrl_eq_ok h
  have hne : own ++ s.authParameters c credential (signedNames fields) ≠ [] := by
    simp [Signer.authParameters]
  exact ⟨parts, hparts, Url.error?_split_join hparts (Url.Query.write_ne_empty hne),
    Url.host?_join hparts (Url.Query.write_ne_empty hne) (Verification.plain_write _).2⟩

/-- Whether a signature in the query fails depends neither on the token nor on the secret. -/
theorem failure_addSignature_query_congr (hlocation : s.location = .query)
    (haccess : c.access = c'.access) :
    ((s.withKeys c).addSignature r).failure = ((s.withKeys c').addSignature r).failure := by
  rw [failure_addSignature_query (by simpa using hlocation) (credentials_withKeys s c),
    failure_addSignature_query (by simpa using hlocation) (credentials_withKeys s c')]
  refine error?_bind_congr (error?_queryUrl_congr haccess) fun url url' hurl hurl' => ?_
  obtain ⟨parts, hparts, hsplit, hhost⟩ := shown_of_queryUrl hurl
  obtain ⟨parts', hparts', hsplit', hhost'⟩ := shown_of_queryUrl hurl'
  obtain rfl : parts = parts' := Except.ok.inj (hparts.symm.trans hparts')
  refine error?_bind_congr ?_ fun _ _ _ _ => error?_stringToSign _ _ _ _
  exact error?_canonicalRequest_congr s.form rfl (hsplit.trans hsplit'.symm)
    (hhost.trans hhost'.symm)

/-- With a token and without one, different requests are signed in the query. -/
theorem request_ne_of_token (hlocation : s.location = .query) (htoken : c.token ≠ none)
    (hbare : c'.token = none) (h : ((s.withKeys c).addSignature r).failure = none)
    (h' : ((s.withKeys c').addSignature r).failure = none) :
    ((s.withKeys c).addSignature r).request ≠ ((s.withKeys c').addSignature r).request := by
  intro hsame
  have hplace (c : Credentials) : (s.withKeys c).location = .query := hlocation
  obtain ⟨url, -, -, hurl, -⟩ := addSignature_query (hplace c) (credentials_withKeys s c) h
  obtain ⟨parts, hparts, -⟩ := shown_of_queryUrl hurl
  change Url.split r.url = .ok parts at hparts
  obtain ⟨fields, credential, signature, q, -, -, hq, hgives⟩ :=
    split_addSignature (hplace c) (credentials_withKeys s c) hparts h
  obtain ⟨fields', credential', signature', q', -, -, hq', hgives'⟩ :=
    split_addSignature (hplace c') (credentials_withKeys s c') hparts h'
  rw [hsame] at hq
  obtain rfl : q = q' := Except.ok.inj (hq.symm.trans hq')
  have hname : "X-Amz-Security-Token" ≠ "X-Amz-Signature" := by decide
  have hvalues := hgives.valuesOf hname
  rw [hgives'.valuesOf hname, Url.Query.valuesOf_append, Url.Query.valuesOf_append,
    valuesOf_token, valuesOf_token, hbare] at hvalues
  have hnone := List.append_cancel_left hvalues
  rcases hc : c.token with _ | token
  · exact htoken hc
  · rw [hc] at hnone
    cases hnone

end

/-! ## Leaving the token out -/

section

variable {config : Config} {c : Credentials} {now : DateTime} {r : Request}

theorem withoutToken_of_ne (h : c.token ≠ some "") : c.withoutToken true = c.bare := by
  unfold Credentials.withoutToken Credentials.bare
  rcases hc : c.token with _ | token
  · cases c
    cases hc
    rfl
  · have hempty : token.isEmpty = false := by
      rw [Bool.eq_false_iff]
      intro hempty
      exact h (by rw [hc, String.isEmpty_iff.mp hempty])
    simp [hempty]

theorem withoutToken_of_empty (omitted : Bool) (h : c.token = some "") :
    c.withoutToken omitted = c := by
  unfold Credentials.withoutToken
  rw [h]
  simp

theorem withoutToken_bare (omitted : Bool) : c.bare.withoutToken omitted = c.bare := by
  simp [Credentials.withoutToken, Credentials.bare]

/-- Leaving the token out and having none make signers with the same values, or fail with the
same. -/
theorem exists_omitting (config : Config) (c : Credentials) (now : DateTime) :
    (∃ failure, Signer.ofConfig config.omitting c now = .error failure ∧
      Signer.ofConfig config c.bare now = .error failure) ∨
    ∃ s : Signer, s.location = config.options.location ∧
      Signer.ofConfig config.omitting c now = .ok (s.withKeys (c.withoutToken true)) ∧
      Signer.ofConfig config c.bare now = .ok (s.withKeys c.bare) := by
  have hexpires : config.omitting.options.expirySeconds = config.options.expirySeconds := rfl
  simp only [ofConfig_eq, hexpires, withoutToken_bare]
  rcases config.options.expirySeconds.mapError Failure.signing with failure | expires
  · exact .inl ⟨failure, rfl, rfl⟩
  rcases (now.toUtc).mapError Failure.time with failure | time
  · exact .inl ⟨failure, rfl, rfl⟩
  · exact .inr ⟨⟨none, config.region, config.service, config.options.location, time,
      config.options.payload, config.options.normalizePath, config.options.encodePath, expires⟩,
      rfl, rfl, rfl⟩

/-- In a header, or if it is not empty, a token that is left out is no different from none. -/
theorem sign_omitting_eq (h : config.options.location = .headers ∨ c.token ≠ some "") :
    sign config.omitting (some c) now r = sign config (some c.bare) now r := by
  rcases exists_omitting config c now with ⟨failure, hs, hs'⟩ | ⟨s, hlocation, hs, hs'⟩
  · rw [sign, sign, hs, hs']
  have hsame : (s.withKeys (c.withoutToken true)).addSignature r =
      (s.withKeys c.bare).addSignature r := by
    by_cases htoken : c.token = some ""
    · rw [withoutToken_of_empty true htoken]
      have hheaders := h.resolve_right (fun hne => hne htoken)
      refine addSignature_headers_congr (hlocation.trans hheaders) rfl rfl ?_
      rw [htoken]
      rfl
    · rw [withoutToken_of_ne htoken]
  rw [sign_eq_of_ofConfig hs, sign_eq_of_ofConfig hs', hsame]
  rfl

/-- What is left is an empty token and a signature in the query. -/
theorem empty_in_query (h : ¬(config.options.location = .headers ∨ c.token ≠ some "")) :
    config.options.location = .query ∧ c.token = some "" := by
  obtain ⟨hplace, htoken⟩ := not_or.mp h
  refine ⟨?_, Decidable.not_not.mp htoken⟩
  cases hlocation : config.options.location with
  | headers => exact absurd hlocation hplace
  | query => rfl

/-- Signing fails in the same way whatever token is left out. -/
theorem failure_sign_omitting (config : Config) (c : Credentials) (now : DateTime) (r : Request) :
    (sign config.omitting (some c) now r).failure = (sign config (some c.bare) now r).failure := by
  by_cases h : config.options.location = .headers ∨ c.token ≠ some ""
  · rw [sign_omitting_eq h]
  obtain ⟨hquery, htoken⟩ := empty_in_query h
  rcases exists_omitting config c now with ⟨failure, hs, hs'⟩ | ⟨s, hlocation, hs, hs'⟩
  · rw [sign, sign, hs, hs']
  rw [sign_eq_of_ofConfig hs, sign_eq_of_ofConfig hs', withoutToken_of_empty true htoken]
  exact failure_addSignature_query_congr (hlocation.trans hquery) rfl

/-- An empty token that is left out is seen in the query of what is signed. -/
theorem request_sign_omitting_ne (hquery : config.options.location = .query)
    (htoken : c.token = some "") (h : (sign config (some c.bare) now r).failure = none) :
    (sign config.omitting (some c) now r).request ≠ (sign config (some c.bare) now r).request := by
  have h' := (failure_sign_omitting config c now r).trans h
  rcases exists_omitting config c now with ⟨failure, -, hs'⟩ | ⟨s, hlocation, hs, hs'⟩
  · rw [sign, hs'] at h
    cases h
  rw [sign_eq_of_ofConfig hs, withoutToken_of_empty true htoken] at h' ⊢
  rw [sign_eq_of_ofConfig hs'] at h ⊢
  refine request_ne_of_token (hlocation.trans hquery) ?_ rfl h' h
  rw [htoken]
  exact Option.some_ne_none ""

end

/-- To leave the session token out is to sign with the same keys and no token at all, with the same
told, the same left and the same failure, but for an empty token and a signature in the query. There
signing still fails in the same way, and whatever is signed shows that there was a token. -/
theorem omitted_token_hidden (config : Config) (c : Credentials) (now : DateTime) (r : Request) :
    (config.options.location = .headers ∨ c.token ≠ some "" →
      sign config.omitting (some c) now r = sign config (some c.bare) now r) ∧
    (sign config.omitting (some c) now r).failure = (sign config (some c.bare) now r).failure ∧
    ((sign config (some c.bare) now r).failure = none →
      ((sign config.omitting (some c) now r).request = (sign config (some c.bare) now r).request ↔
        config.options.location = .headers ∨ c.token ≠ some "")) := by
  refine ⟨sign_omitting_eq, failure_sign_omitting config c now r, fun h => ?_⟩
  constructor
  · intro hsame
    by_contra hneither
    obtain ⟨hquery, htoken⟩ := empty_in_query hneither
    exact request_sign_omitting_ne hquery htoken h hsame
  · intro hcase
    rw [sign_omitting_eq hcase]

/-! ### An empty token -/

section

open Pipeline

def Sample.emptyToken : Credentials := { Sample.keys with token := some "" }

/-- An empty token is not left out of a signed URL. -/
theorem empty_token_shown :
    (sign (Sample.inQuery none).omitting (some Sample.emptyToken) Sample.noon
        Sample.readRequest).failure = none ∧
      (sign (Sample.inQuery none) (some Sample.emptyToken.bare) Sample.noon
        Sample.readRequest).failure = none ∧
      (sign (Sample.inQuery none).omitting (some Sample.emptyToken) Sample.noon
          Sample.readRequest).request ≠
        (sign (Sample.inQuery none) (some Sample.emptyToken.bare) Sample.noon
          Sample.readRequest).request := by
  obtain ⟨parts, hurl, hparts⟩ := split_reading "/a.txt" (by intro c hc; cases hc; rfl)
  have hsigned : (sign (Sample.inQuery none) (some Sample.emptyToken.bare) Sample.noon
      Sample.readRequest).failure = none :=
    failure_sign_query rfl rfl rfl ⟨_, rfl⟩ ⟨_, rfl⟩ hurl hparts
  refine ⟨?_, hsigned, request_sign_omitting_ne rfl rfl hsigned⟩
  exact (failure_sign_omitting (Sample.inQuery none) _ Sample.noon Sample.readRequest).trans hsigned

end

end UrlSigning.Signing
