import UrlSigning.Proofs.Signing.Signer
import UrlSigning.Proofs.Url.Query

/-!
# Signatures in the query

What a signature in the query is made from when signing succeeds: the URL with the parameters of the
signature, the canonical request of that URL, and the text that is signed.
-/

namespace UrlSigning.Signing

open Http

/-- An item of a scope, which has to be a text. -/
def scopeItem (item : Json) (place : Nat) : Except Failure String :=
  match item.text? with
  | some s => pure s
  | none => throw (.scopeItem place item.kindName)

theorem scopeItem_eq_ok {item : Json} {place : Nat} {s : String}
    (h : scopeItem item place = .ok s) : s = item.plain := by
  cases item <;> cases h
  rfl

theorem mapM_scopeItem {items : List Json} {n : Nat} {texts : List String}
    (h : (items.zipIdx n).mapM (fun x => scopeItem x.1 x.2) = .ok texts) :
    texts = items.map (·.plain) := by
  induction items generalizing n texts with
  | nil =>
      cases h
      rfl
  | cons item items ih =>
      rw [List.zipIdx_cons, List.mapM_cons] at h
      obtain ⟨s, hs, h⟩ := bind_eq_ok.mp h
      obtain ⟨rest, hrest, h⟩ := bind_eq_ok.mp h
      cases h
      rw [List.map_cons, ← scopeItem_eq_ok hs, ← ih hrest]

theorem joinScope_eq_ok {items : List Json} {text : String} (h : joinScope items = .ok text) :
    text = "/".intercalate (items.map (·.plain)) := by
  obtain ⟨texts, htexts, h⟩ := bind_eq_ok.mp h
  change items.zipIdx.mapM (fun x => scopeItem x.1 x.2) = .ok texts at htexts
  rw [← mapM_scopeItem htexts]
  exact (Except.ok.inj h).symm

/-- The value of a signed field as it is signed. -/
def signedValue (f : SignedField) : Except Failure String :=
  match f.2 with
  | some value => pure (Text.collapseBlanks value)
  | none => throw .noHost

/-- The request of which the content type of a form was taken out. -/
def withoutFormType (r : Request) : Request :=
  { r with headers := Signer.dropFormType r.headers }

section

variable {s : Signer} {c : Credentials} {r : Request} {url : String}

/-- To sign in the query is to sign the request with the parameters of the signature in its URL. -/
theorem addSignature_of_queryUrl (hlocation : s.location = .query) (hc : s.credentials = some c)
    (hurl : s.queryUrl c (withoutFormType r) = .ok url) :
    s.addSignature r = s.signPrepared c { withoutFormType r with url := url } := by
  have hprepare : s.prepare c r = ({ withoutFormType r with url := url }, none) := by
    rw [Signer.prepare, hlocation]
    dsimp only
    rw [Signer.prepareQuery, ← withoutFormType, hurl]
  rw [Signer.addSignature, hc]
  dsimp only
  rw [hprepare]

/-- Signing in the query fails where there is no URL for it. -/
theorem failure_addSignature_of_queryUrl {e : Failure} (hlocation : s.location = .query)
    (hc : s.credentials = some c) (hurl : s.queryUrl c (withoutFormType r) = .error e) :
    (s.addSignature r).failure = some e := by
  have hprepare : s.prepare c r = (withoutFormType r, some e) := by
    rw [Signer.prepare, hlocation]
    dsimp only
    rw [Signer.prepareQuery, ← withoutFormType, hurl]
  rw [Signer.addSignature, hc]
  dsimp only
  rw [hprepare]

/-- What signing leaves when a signature was put into the query. -/
theorem addSignature_query (hlocation : s.location = .query) (hc : s.credentials = some c)
    (h : (s.addSignature r).failure = none) :
    ∃ url canonical text, s.queryUrl c (withoutFormType r) = .ok url ∧
      canonicalRequest s.form { withoutFormType r with url := url } = .ok canonical ∧
      stringToSign s.stamp s.scope canonical = .ok text ∧
      (s.addSignature r).request =
        { withoutFormType r with
          url := url ++ s!"&X-Amz-Signature={signature c.secret s.scope text}" } := by
  rcases hurl : s.queryUrl c (withoutFormType r) with failure | url
  · rw [failure_addSignature_of_queryUrl hlocation hc hurl] at h
    cases h
  rw [addSignature_of_queryUrl hlocation hc hurl] at h ⊢
  obtain ⟨canonical, text, hcanonical, htext, hinject⟩ := signPrepared_eq_ok h
  refine ⟨url, canonical, text, rfl, hcanonical, htext, ?_⟩
  rw [Signer.inject, hlocation] at hinject
  exact (Except.ok.inj hinject).symm

theorem failure_addSignature_eq_none {canonical text : String} (hlocation : s.location = .query)
    (hc : s.credentials = some c) (hurl : s.queryUrl c (withoutFormType r) = .ok url)
    (hcanonical : canonicalRequest s.form { withoutFormType r with url := url } = .ok canonical)
    (htext : stringToSign s.stamp s.scope canonical = .ok text) :
    (s.addSignature r).failure = none := by
  rw [addSignature_of_queryUrl hlocation hc hurl, Signer.signPrepared, hcanonical]
  dsimp only
  rw [htext]
  simp only [Signer.inject, hlocation]
  rfl

/-! ## The URL -/

/-- The parameters of the signature go into the URL after those that the request has. -/
theorem queryUrl_eq {fields : List SignedField} {credential : String} {parts : Url.Parts}
    (hfields : fieldsToSign r = .ok fields)
    (hcredential : s.scope.credential c.access = .ok credential)
    (hparts : Url.split r.url = .ok parts) :
    ∃ own : List (String × String), own = Url.Query.firstValues (Url.Query.read parts.query) ∧
      s.queryUrl c r = .ok (Url.join { parts with
        query :=
          Url.Query.write (own ++ s.authParameters c credential (signedNames fields)) }) := by
  refine ⟨_, rfl, ?_⟩
  rw [Signer.queryUrl, hfields, hcredential, hparts]
  show Except.ok _ = _
  rcases hown : Url.Query.firstValues (Url.Query.read parts.query) with _ | ⟨p, own⟩
  · simp
  · rw [Url.Query.write_append (by simp) (by simp [Signer.authParameters])]
    rfl

theorem queryUrl_eq_ok (h : s.queryUrl c r = .ok url) :
    ∃ fields credential parts, ∃ own : List (String × String),
      fieldsToSign r = .ok fields ∧ s.scope.credential c.access = .ok credential ∧
      Url.split r.url = .ok parts ∧
      own = Url.Query.firstValues (Url.Query.read parts.query) ∧
      url = Url.join { parts with
        query := Url.Query.write (own ++ s.authParameters c credential (signedNames fields)) } := by
  have hurl := h
  obtain ⟨fields, hfields, h⟩ := bind_eq_ok.mp h
  obtain ⟨credential, hcredential, h⟩ := bind_eq_ok.mp h
  obtain ⟨parts, hparts, -⟩ := bind_eq_ok.mp h
  have hparts := mapError_eq_ok.mp hparts
  obtain ⟨own, hown, hquery⟩ := queryUrl_eq hfields hcredential hparts
  exact ⟨fields, credential, parts, own, hfields, hcredential, hparts, hown,
    Except.ok.inj (hurl.symm.trans hquery)⟩

/-! ## The canonical request -/

theorem canonicalRequest_eq_ok {form : CanonicalForm} {canonical : String}
    (h : canonicalRequest form r = .ok canonical) :
    ∃ parts fields lines, Url.split r.url = .ok parts ∧ fieldsToSign r = .ok fields ∧
      (sortedOnce (fields.map (·.1))).mapM (headerLine fields) = .ok lines ∧
      canonical = "\n".intercalate
        [Text.upper r.method,
          Url.Path.canonical form.normalizePath form.encodePath parts.path,
          Url.Query.sorted parts.query, "\n".intercalate lines ++ "\n", signedNames fields,
          (r.headers.get? contentHashHeader).getD (form.payloadHash r)] := by
  obtain ⟨parts, hparts, h⟩ := bind_eq_ok.mp h
  obtain ⟨fields, hfields, h⟩ := bind_eq_ok.mp h
  obtain ⟨text, htext, h⟩ := bind_eq_ok.mp h
  obtain ⟨lines, hlines, htext⟩ := bind_eq_ok.mp htext
  refine ⟨parts, fields, lines, mapError_eq_ok.mp hparts, hfields, hlines, ?_⟩
  rw [← Except.ok.inj h, ← Except.ok.inj htext]

/-- A request whose URL can be read has a canonical request if its signed fields have values. -/
theorem exists_canonicalRequest (form : CanonicalForm) {parts : Url.Parts}
    {fields : List SignedField} (hparts : Url.split r.url = .ok parts)
    (hfields : fieldsToSign r = .ok fields) (hvalues : ∀ f ∈ fields, f.2.isSome = true) :
    ∃ canonical, canonicalRequest form r = .ok canonical := by
  have hline : ∀ name ∈ sortedOnce (fields.map (·.1)), ∃ line,
      headerLine fields name = .ok line := by
    intro name _
    have hvalue : ∀ f ∈ fields.filter fun f => Headers.sameName f.1 name,
        ∃ value, signedValue f = .ok value := by
      intro f hf
      obtain ⟨value, hvalue⟩ := Option.isSome_iff_exists.mp (hvalues f (List.mem_filter.mp hf).1)
      exact ⟨Text.collapseBlanks value, by rw [signedValue, hvalue]; rfl⟩
    obtain ⟨values, hmapped⟩ := exists_mapM_eq_ok hvalue
    refine ⟨name ++ ":" ++ ",".intercalate values, ?_⟩
    show (_ >>= _) = _
    exact bind_eq_ok.mpr ⟨values, hmapped, rfl⟩
  obtain ⟨lines, hlines⟩ := exists_mapM_eq_ok hline
  have htext : headerLines fields = .ok ("\n".intercalate lines) :=
    bind_eq_ok.mpr ⟨lines, hlines, rfl⟩
  exact ⟨_, bind_eq_ok.mpr ⟨parts, mapError_eq_ok.mpr hparts,
    bind_eq_ok.mpr ⟨fields, hfields, bind_eq_ok.mpr ⟨_, htext, rfl⟩⟩⟩⟩

theorem stringToSign_eq_ok {stamp canonical text : String} {scope : Scope}
    (h : stringToSign stamp scope canonical = .ok text) :
    text = "\n".intercalate
      [algorithm, stamp, "/".intercalate [scope.date, scope.region.plain, scope.service, scopeEnd],
        Text.Hex.text (Hash.sha256 (Text.Utf8.ofString canonical))] := by
  obtain ⟨scopeText, hscope, h⟩ := bind_eq_ok.mp h
  rw [← Except.ok.inj h, joinScope_eq_ok hscope]
  rfl

end

end UrlSigning.Signing
