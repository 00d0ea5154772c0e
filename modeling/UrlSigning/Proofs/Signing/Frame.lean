import UrlSigning.Proofs.Signing.Body
import UrlSigning.Proofs.Signing.Query
import UrlSigning.Proofs.Time.Seconds

/-!
# What signing leaves alone

Signing never touches the method and the body of a request, whether it succeeds or fails, and a
signature in the query leaves the headers as they are but for the content type of a form. When the
signer refuses a request, it has not begun, and the request is as it was.
-/

namespace UrlSigning.Signing

open Http

/-! ## The method and the body -/

/-- Requests of the same method and with the same body. -/
structure SameMessage (r r' : Request) : Prop where
  method : r'.method = r.method
  body : r'.body = r.body

theorem SameMessage.refl (r : Request) : SameMessage r r := ⟨rfl, rfl⟩

theorem SameMessage.trans {r r' r'' : Request} (h : SameMessage r r') (h' : SameMessage r' r'') :
    SameMessage r r'' :=
  ⟨h'.method.trans h.method, h'.body.trans h.body⟩

section

variable (s : Signer) (c : Credentials) (r : Request)

theorem sameMessage_prepareHeaders : SameMessage r (s.prepareHeaders c r).1 := by
  unfold Signer.prepareHeaders
  split <;> exact ⟨rfl, rfl⟩

/-- A preparation for the query that may do anything to the body, and fail after it did, leaves the
body that was set aside. -/
theorem sameMessage_prepareQuery : SameMessage r (s.prepareQuery c r).1 where
  method := by
    unfold Signer.prepareQuery
    dsimp only
    split <;> rfl
  body := by
    rw [prepareQuery_eq_withBodyAside (fun _ => pure [])]
    exact body_withBodyAside _ r

theorem sameMessage_prepare : SameMessage r (s.prepare c r).1 := by
  unfold Signer.prepare
  split
  · exact sameMessage_prepareHeaders s c r
  · exact sameMessage_prepareQuery s c r

theorem sameMessage_inject {signature : String} {signed : Request}
    (h : s.inject c r signature = .ok signed) : SameMessage r signed := by
  unfold Signer.inject at h
  split at h
  · obtain ⟨value, -, h⟩ := bind_eq_ok.mp h
    cases h
    exact ⟨rfl, rfl⟩
  · cases h
    exact ⟨rfl, rfl⟩

theorem sameMessage_signPrepared : SameMessage r (s.signPrepared c r).request := by
  rcases signPrepared_cases s c r with ⟨_, -, h⟩ | ⟨_, _, -, -, h⟩ |
    ⟨_, _, -, -, ⟨_, -, h⟩ | ⟨signed, hinject, h⟩⟩ <;> rw [h]
  · exact .refl r
  · exact .refl r
  · exact .refl r
  · exact sameMessage_inject s c r hinject

theorem sameMessage_addSignature : SameMessage r (s.addSignature r).request := by
  rcases addSignature_cases s r with ⟨-, h⟩ | ⟨c, prepared, _, -, hprepare, h⟩ |
    ⟨c, prepared, -, hprepare, h⟩ <;> rw [h]
  · exact .refl r
  · have hsame := sameMessage_prepare s c r
    rw [hprepare] at hsame
    exact hsame
  · have hsame := sameMessage_prepare s c r
    rw [hprepare] at hsame
    exact hsame.trans (sameMessage_signPrepared s c prepared)

theorem sameMessage_sign (config : Config) (credentials : Option Credentials) (now : DateTime) :
    SameMessage r (sign config credentials now r).request := by
  rcases sign_cases config credentials now r with ⟨-, h⟩ | ⟨_, _, -, -, h⟩ | ⟨c, s, -, -, h⟩ <;>
    rw [h]
  · exact .refl r
  · exact .refl r
  · exact sameMessage_addSignature s r

end

/-! ## The headers -/

theorem headers_sign {config : Config} {credentials : Option Credentials} {now : DateTime}
    {r : Request} (hlocation : config.options.location = .query)
    (h : (sign config credentials now r).failure = none) :
    (sign config credentials now r).request.headers = Signer.dropFormType r.headers := by
  rcases sign_cases config credentials now r with
    ⟨-, hsign⟩ | ⟨_, _, -, -, hsign⟩ | ⟨c, s, -, hs, hsign⟩ <;> rw [hsign] at h ⊢
  · cases h
  · cases h
  · obtain ⟨hc, hquery⟩ := of_ofConfig hs
    obtain ⟨url, canonical, text, -, -, -, hsigned⟩ :=
      addSignature_query (hquery.trans hlocation) hc h
    rw [request_behind, hsigned]
    rfl

/-! ## Refusals -/

/-- The length is a positive whole number of seconds. -/
def IsPositiveWhole (d : Duration) : Prop := d.seconds.isPositive = true ∧ d.seconds.isWhole = true

theorem isWhole_of_truncate?_eq_none {x : Binary64} (h : x.truncate? = none) :
    x.isWhole = false := by
  cases x with
  | finite => cases h
  | infinite => rfl
  | nan => rfl

/-- An expiry is refused just when it is no positive whole number of seconds. -/
theorem expirySeconds_eq_error {expires : Option Duration} :
    (∃ fault, expirySeconds expires = .error fault) ↔
      ∃ d, expires = some d ∧ ¬IsPositiveWhole d := by
  rcases expires with _ | d
  · simp [expirySeconds]
  simp only [Option.some.injEq, exists_eq_left', IsPositiveWhole, expirySeconds, ← Bool.and_eq_true]
  rcases hn : d.seconds.truncate? with _ | n
  · -- a number without a whole part is no whole one either
    simp [isWhole_of_truncate?_eq_none hn]
  · cases d.seconds.isPositive && d.seconds.isWhole <;> simp

/-- An expiry is written as the number of seconds that it comes to. -/
theorem expirySeconds_eq_ok_iff {d : Duration} {n : Int} :
    expirySeconds (some d) = .ok n ↔ d.ComesTo n := by
  rw [← Duration.comesTo_iff]
  unfold expirySeconds
  dsimp only
  rcases d.seconds.truncate? with _ | whole
  · simp
  · cases d.seconds.isPositive <;> cases d.seconds.isWhole <;> simp

theorem Options.expirySeconds_eq_error {o : Options} :
    (∃ fault, o.expirySeconds = .error fault) ↔
      o.location = .query ∧ ∃ d, o.expires = some d ∧ ¬IsPositiveWhole d := by
  rw [← Signing.expirySeconds_eq_error]
  unfold Options.expirySeconds
  cases o.location <;> simp

/-! ## What is left -/

/-- Signing leaves the method and the body of every request as they are, whether it succeeds or
fails. A signature that was put into the query leaves the header fields and their order too, except
that all content types are taken out if the first of them is that of a form. The signer refuses a
request just when there are no credentials, or when the signature is for the query and the expiry is
no positive whole number of seconds; a request that it refuses is as it was. -/
theorem sign_changes_only_url (config : Config) (credentials : Option Credentials) (now : DateTime)
    (r : Request) :
    let signed := sign config credentials now r
    (signed.request.method = r.method ∧ signed.request.body = r.body) ∧
    (config.options.location = .query → signed.failure = none →
      signed.request.headers.fields =
        if r.headers.get? "content-type" = some Signer.formContentType then
          r.headers.fields.filter fun f => !Headers.sameName f.1 "content-type"
        else r.headers.fields) ∧
    ((∃ e, signed.failure = some e ∧ e.kind = .signing) ↔
      credentials = none ∨ config.options.location = .query ∧
        ∃ d, config.options.expires = some d ∧ ¬IsPositiveWhole d) ∧
    (∀ e, signed.failure = some e → e.kind = .signing → signed.request = r) := by
  dsimp only
  refine ⟨?_, ?_, ?_, ?_⟩
  · have h := sameMessage_sign r config credentials now
    exact ⟨h.method, h.body⟩
  · intro hlocation hfailure
    rw [headers_sign hlocation hfailure, Signer.dropFormType]
    split <;> rfl
  · rw [← Options.expirySeconds_eq_error]
    constructor
    · rintro ⟨e, he, hkind⟩
      rcases refused_or_isMalformed he with ⟨fault, -, -, h⟩ | hmalformed
      · exact h.imp_right fun h => ⟨fault, h⟩
      · exact absurd hkind (kind_ne_signing_of_isMalformed hmalformed)
    · intro h
      obtain ⟨fault, hfault⟩ := refuses_of h
      exact ⟨.signing fault, hfault, rfl⟩
  · intro e he hkind
    rcases refused_or_isMalformed he with ⟨fault, -, hrequest, -⟩ | hmalformed
    · exact hrequest
    · exact absurd hkind (kind_ne_signing_of_isMalformed hmalformed)

end UrlSigning.Signing
