import UrlSigning.Proofs.Signing.Query
import UrlSigning.Proofs.Url.Rejoined
import UrlSigning.Proofs.Verification.Headers

/-!
# Signatures that verify

A request whose signature was put into its query by the signer is one that a verifier accepts. The
signature goes to the end of a URL that holds all else that was signed, and neither the parts of the
URL nor the pairs of its query nor the headers change when it does.
-/

namespace UrlSigning.Verification

open Http Signing Text

/-! ## The query -/

/-- The name of a parameter that a signature needs for itself. -/
def IsReserved (name : String) : Prop := "X-Amz-".toList <+: name.toList

instance : DecidablePred IsReserved := fun name =>
  inferInstanceAs (Decidable ("X-Amz-".toList <+: name.toList))

theorem isUnreserved_of_mem_hex {bs : Bytes} {c : Char} (h : c ∈ (Hex.text bs).toList) :
    Percent.isUnreserved c = true := by
  obtain ⟨n, hn, rfl⟩ := Hex.exists_of_mem_text h
  exact Percent.isUnreserved_digit hn .lower

theorem encodeText_signature : Url.Query.encodeText "X-Amz-Signature" = "X-Amz-Signature" :=
  Url.Query.encodeText_of_unreserved (List.all_eq_true.mp (by decide))

/-- A signature is written into a query as it is. -/
theorem encodePair_signature (bs : Bytes) :
    Url.Query.encodePair ("X-Amz-Signature", Hex.text bs) = ("X-Amz-Signature", Hex.text bs) := by
  have hvalue : Url.Query.encodeText (Hex.text bs) = Hex.text bs :=
    Url.Query.encodeText_of_unreserved fun c hc => isUnreserved_of_mem_hex hc
  rw [Url.Query.encodePair, encodeText_signature, hvalue]

/-- A query with a signature at its end is the query of one more pair. -/
theorem write_signature {pairs : List (String × String)} (hne : pairs ≠ []) (bs : Bytes) :
    Url.Query.write pairs ++ s!"&X-Amz-Signature={Hex.text bs}" =
      Url.Query.write (pairs ++ [("X-Amz-Signature", Hex.text bs)]) := by
  rw [Url.Query.write_append hne (List.cons_ne_nil _ []), Url.Query.write_eq [_],
    List.map_singleton, String.intercalate_singleton, encodePair_signature, Url.Query.part,
    String.append_assoc]
  rfl

/-- The parameters of a signature are not there yet in a query without reserved names. -/
theorem lookup_own {own : List (String × String)} (hown : ∀ p ∈ own, ¬ IsReserved p.1)
    {name : String} (hname : IsReserved name) (rest : List (String × String)) :
    (own ++ rest).lookup name = rest.lookup name := by
  induction own with
  | nil => rfl
  | cons p own ih =>
      have hne : (name == p.1) = false := by
        rw [beq_eq_false_iff_ne]
        rintro rfl
        exact hown p List.mem_cons_self hname
      rw [List.cons_append, List.lookup_cons, hne]
      exact ih fun q hq => hown q (List.mem_cons_of_mem p hq)

theorem isReserved_signature : IsReserved "X-Amz-Signature" := by
  decide

theorem ne_signature_of_mem {s : Signer} {c : Credentials} {credential names : String}
    {p : String × String} (h : p ∈ s.authParameters c credential names) :
    p.1 ≠ "X-Amz-Signature" := by
  rw [Signer.authParameters, List.mem_append] at h
  rcases h with h | h
  · simp only [List.mem_cons, List.not_mem_nil, or_false] at h
    rcases h with rfl | rfl | rfl | rfl | rfl <;> simp
  · obtain ⟨token, -, rfl⟩ := Option.map_eq_some_iff.mp (Option.mem_toList.mp h)
    simp

/-- A verifier reads what the signer wrote into a query without reserved names. -/
theorem read?_signed {s : Signer} {c : Credentials} (credential names : String)
    {own : List (String × String)} (hown : ∀ p ∈ own, ¬ IsReserved p.1) (bs : Bytes) :
    SignedQuery.read? (Url.Query.write (own ++ s.authParameters c credential names ++
        [("X-Amz-Signature", Hex.text bs)])) =
      some
        { signature := Hex.text bs
          stamp := s.stamp
          names := (cutAll ';' names.toList).map String.ofList
          rest := (own ++ s.authParameters c credential names).map Url.Query.encodePair } := by
  have hother : ∀ p ∈ (own ++ s.authParameters c credential names).map Url.Query.encodePair,
      p.1 ≠ "X-Amz-Signature" := by
    intro p hp
    obtain ⟨q, hq, rfl⟩ := List.mem_map.mp hp
    intro heq
    -- encoding takes no other name to that of the signature
    have hq' : q.1 = "X-Amz-Signature" :=
      Url.Query.encodeText_injective (heq.trans encodeText_signature.symm)
    rcases List.mem_append.mp hq with hq | hq
    · exact hown q hq (hq' ▸ isReserved_signature)
    · exact ne_signature_of_mem hq hq'
  have hraw : Url.Query.rawPairs (Url.Query.write (own ++ s.authParameters c credential names ++
      [("X-Amz-Signature", Hex.text bs)])) =
        (own ++ s.authParameters c credential names).map Url.Query.encodePair ++
          [("X-Amz-Signature", Hex.text bs)] := by
    rw [Url.Query.rawPairs_write (by simp), List.map_append, List.map_singleton,
      encodePair_signature]
  have hthis : (((own ++ s.authParameters c credential names).map Url.Query.encodePair ++
      [("X-Amz-Signature", Hex.text bs)]).filter (·.1 == "X-Amz-Signature")) =
        [("X-Amz-Signature", Hex.text bs)] := by
    rw [List.filter_append, List.filter_eq_nil_iff.mpr (by simpa using hother)]
    simp
  have hrest : (((own ++ s.authParameters c credential names).map Url.Query.encodePair ++
      [("X-Amz-Signature", Hex.text bs)]).filter (·.1 != "X-Amz-Signature")) =
        (own ++ s.authParameters c credential names).map Url.Query.encodePair := by
    rw [List.filter_append, List.filter_eq_self.mpr (by simpa using hother)]
    simp
  have hdate : (own ++ s.authParameters c credential names ++
      [("X-Amz-Signature", Hex.text bs)]).lookup "X-Amz-Date" = some s.stamp := by
    rw [List.append_assoc, lookup_own hown (by decide)]
    rfl
  have hnames : (own ++ s.authParameters c credential names ++
      [("X-Amz-Signature", Hex.text bs)]).lookup "X-Amz-SignedHeaders" = some names := by
    rw [List.append_assoc, lookup_own hown (by decide)]
    rfl
  -- there is one signature, and what is read besides comes after the request's own parameters
  unfold SignedQuery.read?
  rw [hraw, Url.Query.read_write (by simp)]
  dsimp only
  rw [hthis, hdate, hnames, hrest]
  rfl

theorem isDropped_of_isWritten {c : Char} (h : Url.Query.isWritten c = true) :
    Url.isDropped c = false := by
  rw [Url.isDropped, Bool.or_eq_false_iff, Bool.or_eq_false_iff, beq_eq_false_iff_ne,
    beq_eq_false_iff_ne, beq_eq_false_iff_ne]
  refine ⟨⟨?_, ?_⟩, ?_⟩ <;> rintro rfl <;> revert h <;> decide

/-- A written query is one that a URL can hold as it stands. -/
theorem plain_write (pairs : List (String × String)) :
    '#' ∉ (Url.Query.write pairs).toList ∧
      ∀ c ∈ (Url.Query.write pairs).toList, Url.isDropped c = false := by
  refine ⟨fun hmem => ?_, fun c hc => isDropped_of_isWritten (Url.Query.isWritten_of_mem hc)⟩
  cases Url.Query.isWritten_of_mem hmem

/-- A URL without a fragment whose query was written can be given a signature at its end. -/
theorem split_signed {url : String} {p joined : Url.Parts} (hurl : Url.split url = .ok p)
    (hfragment : p.fragment = "") {pairs : List (String × String)}
    (hne : pairs ≠ []) (bs : Bytes)
    (h : Url.split (Url.join { p with query := Url.Query.write pairs }) = .ok joined) :
    joined.query = Url.Query.write pairs ∧
      Url.split (Url.join { p with query := Url.Query.write pairs } ++
          s!"&X-Amz-Signature={Hex.text bs}") =
        .ok { joined with
          query := Url.Query.write (pairs ++ [("X-Amz-Signature", Hex.text bs)]) } ∧
      Url.host? (Url.join { p with query := Url.Query.write pairs } ++
          s!"&X-Amz-Signature={Hex.text bs}") =
        Url.host? (Url.join { p with query := Url.Query.write pairs }) := by
  obtain ⟨hquery, hkept⟩ := plain_write (pairs ++ [("X-Amz-Signature", Hex.text bs)])
  rw [← write_signature hne] at hquery hkept ⊢
  exact Url.split_join_append hurl hfragment (Url.Query.write_ne_empty hne) hquery hkept h

/-! ## The canonical request -/

section

variable {v : Verifier} {m : Presigned} {r : Request} {parts : Url.Parts}
  {fields : List SignedField} {pairs : List (String × String)} {canonical : String}

/-- What the signer wrote for a request a verifier writes again that is sent its headers. -/
theorem canonicalRequest?_eq {form : CanonicalForm} {signed : SignedQuery} {path : String}
    (hmethod : m.method = Text.upper r.method) (hheaders : m.headers = r.headers.fields)
    (hhost : Url.host? m.url = Url.host? r.url) (htokens : ∀ f ∈ r.headers.fields, IsToken f.1)
    (hraw : form.normalizePath = false ∧ form.encodePath = false)
    (hhash : v.payloadHash = (r.headers.get? contentHashHeader).getD (form.payloadHash r))
    (hparts : Url.split r.url = .ok parts) (hpath : parts.path = path)
    (hquery : parts.query = Url.Query.write pairs) (hne : pairs ≠ [])
    (hrest : signed.rest = pairs.map Url.Query.encodePair)
    (hfields : fieldsToSign r = .ok fields)
    (hnames : signed.names = sortedOnce (fields.map (·.1)))
    (h : canonicalRequest form r = .ok canonical) :
    v.canonicalRequest? m path signed = some canonical := by
  obtain ⟨parts', fields', lines, hparts', hfields', hlines, rfl⟩ := canonicalRequest_eq_ok h
  obtain rfl : parts = parts' := Except.ok.inj (hparts.symm.trans hparts')
  obtain rfl : fields = fields' := Except.ok.inj (hfields.symm.trans hfields')
  have hfound : signed.names.mapM (headerLine? m) = some lines := by
    rw [hnames]
    refine mapM_eq_some_of_eq_ok (fun name hname line hline => ?_) hlines
    exact headerLine?_eq hheaders hhost htokens hfields (mem_sortedOnce.mp hname) hline
  -- the store of objects has its paths signed as they stand
  have hcanonical : Url.Path.canonical form.normalizePath form.encodePath parts.path = path := by
    rw [hraw.1, hraw.2, ← hpath]
    rfl
  have hsorted : Url.Query.sorted parts.query =
      Url.Query.writeRaw (signed.rest.mergeSort Url.Query.pairLe) := by
    have hfull : (Url.Query.write pairs).isEmpty = false := by
      simpa using Url.Query.write_ne_empty hne
    rw [Url.Query.sorted, hquery, hfull, Url.Query.rawPairs_write hne, hrest]
    rfl
  rw [Verifier.canonicalRequest?, hfound, hcanonical, hsorted, ← hhash, ← hmethod,
    signedNames_eq (fun f hf => (htokens f hf).trim) hfields, ← hnames]
  rfl

end

/-! ## Signing and verifying -/

section

variable {v : Verifier} {m : Presigned} {parts : Url.Parts} {signed : SignedQuery}
  {canonical : String}

theorem signature?_eq (hparts : Url.split m.url = .ok parts)
    (hread : SignedQuery.read? parts.query = some signed) :
    signature? m = some signed.signature := by
  rw [signature?, hparts]
  show (SignedQuery.read? parts.query >>= _) = _
  rw [hread]
  rfl

theorem Verifier.recompute?_eq (hparts : Url.split m.url = .ok parts)
    (hread : SignedQuery.read? parts.query = some signed)
    (hcanonical : v.canonicalRequest? m parts.path signed = some canonical) :
    v.recompute? m = some (Hex.text (Hash.hmac (v.key signed.stamp)
      (Utf8.ofString (v.stringToSign signed.stamp canonical)))) := by
  rw [Verifier.recompute?, hparts]
  show (SignedQuery.read? parts.query >>= _) = _
  rw [hread]
  show (v.canonicalRequest? m parts.path signed >>= _) = _
  rw [hcanonical]
  rfl

end

/-- The verifier that is told what the signer is told. -/
def Verifier.of (c : Credentials) (region : Json) (service : String) (payload : Payload) :
    Verifier :=
  ⟨c.secret.plain, region.plain, service, payload.hash⟩

theorem stringToSign_of {s : Signer} {c : Credentials} {payload : Payload} {canonical text : String}
    (h : stringToSign s.stamp s.scope canonical = .ok text) :
    (Verifier.of c s.region s.service payload).stringToSign s.stamp canonical = text := by
  rw [stringToSign_eq_ok h]
  rfl

theorem key_of (s : Signer) (c : Credentials) (payload : Payload) :
    (Verifier.of c s.region s.service payload).key s.stamp = signingKey c.secret s.scope := rfl

theorem sublist_dropFormType (h : Headers) : (Signer.dropFormType h).fields.Sublist h.fields := by
  unfold Signer.dropFormType
  split
  · exact List.filter_sublist
  · exact List.Sublist.refl _

theorem get?_eq_none {h : Headers} {name : String}
    (hnone : ∀ f ∈ h.fields, Headers.sameName f.1 name = false) : h.get? name = none := by
  rw [Headers.get?, List.find?_eq_none.mpr fun f hf => by simp [hnone f hf]]
  rfl

/-- What a request is like whose signature a verifier can tell from all else: it goes to the web,
its query has none of the parameters of a signature, and its headers have names that can be told
apart and say nothing about the payload. -/
structure IsVerifiable (parts : Url.Parts) (headers : List (String × String)) : Prop where
  scheme : Url.IsWeb parts.scheme
  fragment : parts.fragment = ""
  query : ∀ p ∈ Url.Query.read parts.query, ¬ IsReserved p.1
  tokens : ∀ f ∈ headers, IsToken f.1
  noHash : ∀ f ∈ headers, Headers.sameName f.1 contentHashHeader = false

section

variable {s : Signer} {c : Credentials} {payload : Payload} {r : Request} {parts : Url.Parts}
  {m : Presigned}

/-- A prepared request that is given its signature carries the one that a verifier works out. -/
theorem recompute?_prepared {url canonical text credential : String} {fields : List SignedField}
    {own : List (String × String)} (hpayload : s.payload = some payload)
    (hraw : s.normalizePath = false ∧ s.encodePath = false) (hurl : Url.split url = .ok parts)
    (hr : IsVerifiable parts r.headers.fields) (hown : ∀ p ∈ own, ¬ IsReserved p.1)
    (hjoin : r.url = Url.join { parts with
      query := Url.Query.write (own ++ s.authParameters c credential (signedNames fields)) })
    (hnames : ∀ fields', fieldsToSign r = .ok fields' →
      (cutAll ';' (signedNames fields).toList).map String.ofList =
        sortedOnce (fields'.map (·.1)))
    (hcanonical : canonicalRequest s.form r = .ok canonical)
    (htext : stringToSign s.stamp s.scope canonical = .ok text)
    (hmethod : m.method = Text.upper r.method) (hheaders : m.headers = r.headers.fields)
    (hlink : m.url = r.url ++ s!"&X-Amz-Signature={signature c.secret s.scope text}") :
    ∃ text, signature? m = some text ∧
      (Verifier.of c s.region s.service payload).recompute? m = some text := by
  have hne : own ++ s.authParameters c credential (signedNames fields) ≠ [] := by
    simp [Signer.authParameters]
  obtain ⟨joined, fields', -, hjoined, hfields, -, -⟩ := canonicalRequest_eq_ok hcanonical
  -- the signature goes to the end of the URL, which keeps its parts and its host
  obtain ⟨hquery, hsplit, hhost⟩ := split_signed hurl hr.fragment hne
    (Hash.hmac (signingKey c.secret s.scope) (Utf8.ofString text)) (hjoin ▸ hjoined)
  rw [← hjoin] at hsplit hhost
  change m.url = r.url ++ s!"&X-Amz-Signature={Hex.text _}" at hlink
  rw [← hlink] at hsplit hhost
  have hread := read?_signed (s := s) (c := c) credential (signedNames fields) hown
    (Hash.hmac (signingKey c.secret s.scope) (Utf8.ofString text))
  have hhash : payload.hash =
      (r.headers.get? contentHashHeader).getD (s.form.payloadHash r) := by
    rw [get?_eq_none hr.noHash]
    show _ = s.payloadHash r
    rw [Signer.payloadHash, hpayload]
  have hsame := Verifier.recompute?_eq (v := .of c s.region s.service payload) hsplit hread
    (canonicalRequest?_eq hmethod hheaders hhost hr.tokens hraw hhash hjoined rfl hquery hne rfl
      hfields (hnames fields' hfields) hcanonical)
  refine ⟨_, signature?_eq hsplit hread, ?_⟩
  rw [hsame, stringToSign_of htext, key_of]

/-- A request that was signed in its query carries the signature that a verifier works out. -/
theorem recompute?_addSignature (hlocation : s.location = .query) (hc : s.credentials = some c)
    (hpayload : s.payload = some payload) (hraw : s.normalizePath = false ∧ s.encodePath = false)
    (hurl : Url.split r.url = .ok parts) (hr : IsVerifiable parts r.headers.fields)
    (hupper : Text.upper r.method = r.method) (h : (s.addSignature r).failure = none)
    (hmethod : m.method = (s.addSignature r).request.method)
    (hheaders : m.headers = (s.addSignature r).request.headers.fields)
    (hlink : m.url = (s.addSignature r).request.url) :
    ∃ text, signature? m = some text ∧
      (Verifier.of c s.region s.service payload).recompute? m = some text := by
  obtain ⟨url, canonical, text, hjoin, hcanonical, htext, hsigned⟩ :=
    addSignature_query hlocation hc h
  rw [hsigned] at hmethod hheaders hlink
  obtain ⟨fields, credential, parts', own, hfields, -, hparts, rfl, hurl'⟩ := queryUrl_eq_ok hjoin
  obtain rfl : parts = parts' := Except.ok.inj (hurl.symm.trans hparts)
  -- preparing a request only takes headers away
  have hprepared : IsVerifiable parts (withoutFormType r).headers.fields :=
    { hr with
      tokens := fun f hf => hr.tokens f ((sublist_dropFormType r.headers).subset hf)
      noHash := fun f hf => hr.noHash f ((sublist_dropFormType r.headers).subset hf) }
  refine recompute?_prepared (r := { withoutFormType r with url := url }) hpayload hraw hurl
    hprepared (fun p hp => hr.query p (Url.Query.mem_of_mem_firstValues hp)) hurl'
    (fun fields' hfields' => ?_) hcanonical htext (hmethod.trans hupper.symm) hheaders hlink
  rw [names_found hprepared.tokens hfields, names_eq_of_headers_eq hfields hfields' rfl]

/-- A request that names its host can be signed in its query if the scope can be written and the
URL be read from what it shows of its parts. -/
theorem failure_addSignature_of_host {shown : Url.Parts} {credential scopeText : String}
    (hlocation : s.location = .query) (hc : s.credentials = some c)
    (hurl : Url.split r.url = .ok parts) (hr : IsVerifiable parts r.headers.fields)
    (hshown : Url.partsOf parts.scheme (Url.placeOf parts).toList "" = .ok shown)
    (hcredential : s.scope.credential c.access = .ok credential)
    (hscope : s.scope.text = .ok scopeText)
    (hhost : ∃ f ∈ ownFields (withoutFormType r), Headers.sameName f.1 "host" = true) :
    (s.addSignature r).failure = none := by
  obtain ⟨own, -, hjoin⟩ := queryUrl_eq (r := withoutFormType r) (fieldsToSign_of_host hhost)
    hcredential hurl
  have hne : own ++ s.authParameters c credential (signedNames (ownFields (withoutFormType r))) ≠
      [] := by
    simp [Signer.authParameters]
  obtain ⟨hquery, hkept⟩ := plain_write
    (own ++ s.authParameters c credential (signedNames (ownFields (withoutFormType r))))
  obtain ⟨joined, hjoined⟩ := Url.exists_split_join hurl hr.scheme hr.fragment
    (Url.Query.write_ne_empty hne) hquery hkept hshown
  obtain ⟨canonical, hcanonical⟩ := exists_canonicalRequest s.form
    (r := { withoutFormType r with url := _ }) hjoined (fieldsToSign_of_host hhost)
    fun _ => isSome_of_mem_ownFields
  exact failure_addSignature_eq_none hlocation hc hjoin hcanonical
    (bind_eq_ok.mpr ⟨scopeText, hscope, rfl⟩)

end

end UrlSigning.Verification
