import UrlSigning.Proofs.Checked
import UrlSigning.Signing.Signer

/-!
# What the signer tells and how it fails

Every event of a signature is one of signing. The signer itself refuses a request only before it
begins, and leaves it as it was; whatever it fails with after that says that the request is
malformed: its URL cannot be read, it has no host, a part of the scope is no text, or the time is
outside the calendar.
-/

namespace UrlSigning

open Http

/-- Whether the failure says that something cannot be written as a signature covers it. -/
def Failure.IsMalformed : Failure → Prop
  | .url _ | .time _ | .noHost | .scopeItem _ _ => True
  | _ => False

namespace Signing

/-! ## What signing comes to -/

/-- What comes of signing, told behind an event. -/
def Signed.behind (signed : Signed) (e : Event) : Signed := { signed with log := e :: signed.log }

@[simp] theorem failure_behind (signed : Signed) (e : Event) :
    (signed.behind e).failure = signed.failure := rfl

@[simp] theorem request_behind (signed : Signed) (e : Event) :
    (signed.behind e).request = signed.request := rfl

@[simp] theorem log_behind (signed : Signed) (e : Event) :
    (signed.behind e).log = e :: signed.log := rfl

/-- To sign a prepared request is to write its canonical request, the text to sign and the
signature, each of which may fail. -/
theorem signPrepared_cases (s : Signer) (c : Credentials) (r : Request) :
    (∃ failure, canonicalRequest s.form r = .error failure ∧
      s.signPrepared c r = ⟨r, [], some failure⟩) ∨
    (∃ canonical failure, canonicalRequest s.form r = .ok canonical ∧
      stringToSign s.stamp s.scope canonical = .error failure ∧
      s.signPrepared c r = ⟨r, [.canonicalRequest canonical], some failure⟩) ∨
    ∃ canonical text, canonicalRequest s.form r = .ok canonical ∧
      stringToSign s.stamp s.scope canonical = .ok text ∧
      ((∃ failure, s.inject c r (signature c.secret s.scope text) = .error failure ∧
        s.signPrepared c r =
          ⟨r, [.canonicalRequest canonical, .stringToSign text], some failure⟩) ∨
      ∃ signed, s.inject c r (signature c.secret s.scope text) = .ok signed ∧
        s.signPrepared c r =
          ⟨signed, [.canonicalRequest canonical, .stringToSign text], none⟩) := by
  unfold Signer.signPrepared
  rcases canonicalRequest s.form r with failure | canonical
  · exact .inl ⟨failure, rfl, rfl⟩
  dsimp only
  rcases htext : stringToSign s.stamp s.scope canonical with failure | text
  · exact .inr (.inl ⟨canonical, failure, rfl, htext, rfl⟩)
  dsimp only
  refine .inr (.inr ⟨canonical, text, rfl, htext, ?_⟩)
  rcases s.inject c r (signature c.secret s.scope text) with failure | signed
  · exact .inl ⟨failure, rfl, rfl⟩
  · exact .inr ⟨signed, rfl, rfl⟩

/-- To add a signature is to prepare the request and to sign what was prepared. -/
theorem addSignature_cases (s : Signer) (r : Request) :
    (s.credentials = none ∧ s.addSignature r = ⟨r, [], some (.signing .noCredentials)⟩) ∨
    (∃ c prepared failure, s.credentials = some c ∧ s.prepare c r = (prepared, some failure) ∧
      s.addSignature r = ⟨prepared, [], some failure⟩) ∨
    ∃ c prepared, s.credentials = some c ∧ s.prepare c r = (prepared, none) ∧
      s.addSignature r = s.signPrepared c prepared := by
  unfold Signer.addSignature
  rcases s.credentials with _ | c
  · exact .inl ⟨rfl, rfl⟩
  dsimp only
  rcases hprepare : s.prepare c r with ⟨prepared, _ | failure⟩
  · exact .inr (.inr ⟨c, prepared, rfl, hprepare, rfl⟩)
  · exact .inr (.inl ⟨c, prepared, failure, rfl, hprepare, rfl⟩)

theorem sign_eq_of_ofConfig {config : Config} {c : Credentials} {now : DateTime} {s : Signer}
    (hs : Signer.ofConfig config c now = .ok s) (r : Request) :
    sign config (some c) now r =
      (s.addSignature r).behind (.signing r.method r.url config.options.location.name) := by
  rw [sign, hs]
  rfl

/-- To sign is to let a signer add its signature, if there are credentials and a signer can be
made. -/
theorem sign_cases (config : Config) (credentials : Option Credentials) (now : DateTime)
    (r : Request) :
    (credentials = none ∧
      sign config credentials now r = ⟨r, [], some (.signing .noCredentials)⟩) ∨
    (∃ c failure, credentials = some c ∧ Signer.ofConfig config c now = .error failure ∧
      sign config credentials now r = ⟨r, [], some failure⟩) ∨
    ∃ c s, credentials = some c ∧ Signer.ofConfig config c now = .ok s ∧
      sign config credentials now r =
        (s.addSignature r).behind (.signing r.method r.url config.options.location.name) := by
  rcases credentials with _ | c
  · exact .inl ⟨rfl, rfl⟩
  rcases hs : Signer.ofConfig config c now with failure | s
  · refine .inr (.inl ⟨c, failure, rfl, hs, ?_⟩)
    rw [sign, hs]
  · exact .inr (.inr ⟨c, s, rfl, hs, sign_eq_of_ofConfig hs r⟩)

/-- Nothing is told unless the request was prepared and what was prepared is signed. -/
theorem silent_or_signPrepared (s : Signer) (r : Request) :
    ((s.addSignature r).failure ≠ none ∧ (s.addSignature r).log = []) ∨
    ∃ c prepared, s.credentials = some c ∧ s.prepare c r = (prepared, none) ∧
      s.addSignature r = s.signPrepared c prepared := by
  rcases addSignature_cases s r with ⟨-, h⟩ | ⟨_, _, _, -, -, h⟩ | h
  · rw [h]
    exact .inl ⟨Option.some_ne_none _, rfl⟩
  · rw [h]
    exact .inl ⟨Option.some_ne_none _, rfl⟩
  · exact .inr h

theorem signPrepared_eq_ok {s : Signer} {c : Credentials} {r : Request}
    (h : (s.signPrepared c r).failure = none) :
    ∃ canonical text, canonicalRequest s.form r = .ok canonical ∧
      stringToSign s.stamp s.scope canonical = .ok text ∧
      s.inject c r (signature c.secret s.scope text) = .ok (s.signPrepared c r).request := by
  rcases signPrepared_cases s c r with ⟨_, -, hsigned⟩ | ⟨_, _, -, -, hsigned⟩ |
    ⟨canonical, text, hcanonical, htext, ⟨_, -, hsigned⟩ | ⟨signed, hinject, hsigned⟩⟩ <;>
    rw [hsigned] at h
  · cases h
  · cases h
  · cases h
  · rw [hsigned]
    exact ⟨canonical, text, hcanonical, htext, hinject⟩

/-! ## Events -/

/-- Nothing but signing is told. -/
def Signed.TellsSigning (s : Signed) : Prop := ∀ e ∈ s.log, e.source = .signing

theorem tellsSigning_signPrepared (s : Signer) (c : Credentials) (r : Request) :
    (s.signPrepared c r).TellsSigning := by
  rcases signPrepared_cases s c r with ⟨_, -, h⟩ | ⟨_, _, -, -, h⟩ |
    ⟨_, _, -, -, ⟨_, -, h⟩ | ⟨_, -, h⟩⟩ <;> simp [h, Signed.TellsSigning, Event.source]

theorem tellsSigning_addSignature (s : Signer) (r : Request) :
    (s.addSignature r).TellsSigning := by
  rcases silent_or_signPrepared s r with ⟨-, h⟩ | ⟨c, prepared, -, -, h⟩
  · simp [Signed.TellsSigning, h]
  · rw [h]
    exact tellsSigning_signPrepared s c prepared

theorem tellsSigning_sign (config : Config) (credentials : Option Credentials) (now : DateTime)
    (r : Request) : (sign config credentials now r).TellsSigning := by
  rcases sign_cases config credentials now r with ⟨-, h⟩ | ⟨_, _, -, -, h⟩ | ⟨c, s, -, -, h⟩ <;>
    rw [h]
  · simp [Signed.TellsSigning]
  · simp [Signed.TellsSigning]
  · intro e he
    rcases List.mem_cons.mp he with rfl | he
    · rfl
    · exact tellsSigning_addSignature s r e he

/-! ## Failures -/

/-- If the computation fails, then because something is malformed. -/
def FailsMalformed {α : Type} (x : Except Failure α) : Prop :=
  ∀ e, x = .error e → e.IsMalformed

section

variable {α β : Type}

theorem failsMalformed_ok (a : α) : FailsMalformed (.ok a) := by
  intro e h
  cases h

theorem FailsMalformed.bind {x : Except Failure α} {f : α → Except Failure β}
    (hx : FailsMalformed x) (hf : ∀ a, FailsMalformed (f a)) : FailsMalformed (x >>= f) := by
  intro e h
  rcases bind_eq_error.mp h with h | ⟨a, -, h⟩
  · exact hx e h
  · exact hf a e h

theorem failsMalformed_mapM {xs : List α} {f : α → Except Failure β}
    (hf : ∀ x, FailsMalformed (f x)) : FailsMalformed (xs.mapM f) := by
  intro e h
  obtain ⟨x, -, hx⟩ := exists_of_mapM_eq_error h
  exact hf x e hx

theorem failsMalformed_url (x : Except Url.Fault α) : FailsMalformed (x.mapError .url) := by
  intro e h
  obtain ⟨fault, -, rfl⟩ := mapError_eq_error.mp h
  trivial

theorem failsMalformed_time (x : Except Time.Fault α) : FailsMalformed (x.mapError .time) := by
  intro e h
  obtain ⟨fault, -, rfl⟩ := mapError_eq_error.mp h
  trivial

end

theorem failsMalformed_fieldsToSign (r : Request) : FailsMalformed (fieldsToSign r) := by
  unfold fieldsToSign
  dsimp only
  split
  · exact failsMalformed_ok _
  · exact (failsMalformed_url _).bind fun _ => failsMalformed_ok _

theorem failsMalformed_headerLine (fields : List SignedField) (name : String) :
    FailsMalformed (headerLine fields name) := by
  refine (failsMalformed_mapM fun f => ?_).bind fun _ => failsMalformed_ok _
  rcases f.2 with _ | value
  · rintro e ⟨⟩
    trivial
  · exact failsMalformed_ok _

theorem failsMalformed_headerLines (fields : List SignedField) :
    FailsMalformed (headerLines fields) :=
  (failsMalformed_mapM (failsMalformed_headerLine fields)).bind fun _ => failsMalformed_ok _

theorem failsMalformed_canonicalRequest (form : CanonicalForm) (r : Request) :
    FailsMalformed (canonicalRequest form r) :=
  (failsMalformed_url _).bind fun _ => (failsMalformed_fieldsToSign r).bind fun fields =>
    (failsMalformed_headerLines fields).bind fun _ => failsMalformed_ok _

theorem failsMalformed_joinScope (items : List Json) : FailsMalformed (joinScope items) := by
  refine (failsMalformed_mapM fun x => ?_).bind fun _ => failsMalformed_ok _
  obtain ⟨item, place⟩ := x
  dsimp only
  rcases item.text? with _ | s
  · rintro e ⟨⟩
    trivial
  · exact failsMalformed_ok _

theorem failsMalformed_stringToSign (stamp : String) (scope : Scope) (canonical : String) :
    FailsMalformed (stringToSign stamp scope canonical) :=
  (failsMalformed_joinScope _).bind fun _ => failsMalformed_ok _

theorem failsMalformed_inject (s : Signer) (c : Credentials) (r : Request) (signature : String) :
    FailsMalformed (s.inject c r signature) := by
  unfold Signer.inject
  split
  · exact ((failsMalformed_joinScope _).bind fun _ =>
      (failsMalformed_fieldsToSign r).bind fun _ => failsMalformed_ok _).bind
        fun _ => failsMalformed_ok _
  · exact failsMalformed_ok _

theorem failsMalformed_queryUrl (s : Signer) (c : Credentials) (r : Request) :
    FailsMalformed (s.queryUrl c r) :=
  (failsMalformed_fieldsToSign r).bind fun _ => (failsMalformed_joinScope _).bind fun _ =>
    (failsMalformed_url _).bind fun _ => failsMalformed_ok _

/-! ### Preparing and signing -/

theorem isMalformed_of_setDate {s : Signer} {h : Headers} {e : Failure}
    (he : (s.setDate h).2 = some e) : e.IsMalformed := by
  unfold Signer.setDate at he
  split at he
  · split at he
    · cases he
    · cases he
      trivial
  · cases he

theorem isMalformed_of_prepare {s : Signer} {c : Credentials} {r : Request} {e : Failure}
    (he : (s.prepare c r).2 = some e) : e.IsMalformed := by
  unfold Signer.prepare at he
  split at he
  · unfold Signer.prepareHeaders at he
    split at he
    · next failure hdate =>
        cases he
        exact isMalformed_of_setDate (congrArg Prod.snd hdate)
    · cases he
  · unfold Signer.prepareQuery at he
    dsimp only at he
    split at he
    · cases he
    · next failure hurl =>
        cases he
        exact failsMalformed_queryUrl _ _ _ _ hurl

theorem isMalformed_of_signPrepared {s : Signer} {c : Credentials} {r : Request} {e : Failure}
    (he : (s.signPrepared c r).failure = some e) : e.IsMalformed := by
  rcases signPrepared_cases s c r with ⟨failure, hcanonical, h⟩ | ⟨_, failure, -, htext, h⟩ |
    ⟨_, _, -, -, ⟨failure, hinject, h⟩ | ⟨_, -, h⟩⟩ <;> rw [h] at he <;> cases he
  · exact failsMalformed_canonicalRequest _ _ _ hcanonical
  · exact failsMalformed_stringToSign _ _ _ _ htext
  · exact failsMalformed_inject _ _ _ _ _ hinject

/-- For how many seconds a signature as the options say is valid. -/
def Options.expirySeconds (o : Options) : Except Fault Int :=
  match o.location with
  | .query => Signing.expirySeconds o.expires
  | .headers => .ok Signer.defaultExpires

theorem ofConfig_eq (config : Config) (c : Credentials) (now : DateTime) :
    Signer.ofConfig config c now =
      (config.options.expirySeconds.mapError .signing >>= fun expires =>
        (now.toUtc).mapError .time >>= fun time =>
          .ok ⟨some (c.withoutToken config.options.omitToken), config.region, config.service,
            config.options.location, time, config.options.payload, config.options.normalizePath,
            config.options.encodePath, expires⟩) := by
  unfold Signer.ofConfig Options.expirySeconds
  dsimp only
  cases config.options.location <;> rfl

/-- The signer of a configuration, with the credentials that are used and the place of the
signature. -/
theorem of_ofConfig {config : Config} {c : Credentials} {now : DateTime} {s : Signer}
    (h : Signer.ofConfig config c now = .ok s) :
    s.credentials = some (c.withoutToken config.options.omitToken) ∧
      s.location = config.options.location := by
  rw [ofConfig_eq] at h
  obtain ⟨expires, -, h⟩ := bind_eq_ok.mp h
  obtain ⟨time, -, h⟩ := bind_eq_ok.mp h
  cases h
  exact ⟨rfl, rfl⟩

/-- There is no signer because the expiry is refused, or because the time is malformed. -/
theorem failure_ofConfig {config : Config} {c : Credentials} {now : DateTime} {e : Failure}
    (he : Signer.ofConfig config c now = .error e) :
    (∃ fault, config.options.expirySeconds = .error fault ∧ e = .signing fault) ∨
      e.IsMalformed := by
  rw [ofConfig_eq] at he
  rcases bind_eq_error.mp he with he | ⟨expires, -, he⟩
  · obtain ⟨fault, hfault, rfl⟩ := mapError_eq_error.mp he
    exact .inl ⟨fault, hfault, rfl⟩
  · exact .inr ((failsMalformed_time _).bind (fun _ => failsMalformed_ok _) e he)

/-- What fails inside a signature is malformed. -/
theorem isMalformed_of_addSignature {s : Signer} {c : Credentials} {r : Request} {e : Failure}
    (hc : s.credentials = some c) (he : (s.addSignature r).failure = some e) : e.IsMalformed := by
  rcases addSignature_cases s r with ⟨hnone, -⟩ | ⟨_, _, _, -, hprepare, h⟩ | ⟨_, _, -, -, h⟩
  · cases hc.symm.trans hnone
  · rw [h] at he
    cases he
    exact isMalformed_of_prepare (congrArg Prod.snd hprepare)
  · rw [h] at he
    exact isMalformed_of_signPrepared he

section

variable {config : Config} {credentials : Option Credentials} {now : DateTime} {r : Request}
  {e : Failure}

/-- The signer fails because it refuses the request, which it then leaves as it was, or because
something is malformed. -/
theorem refused_or_isMalformed (he : (sign config credentials now r).failure = some e) :
    (∃ fault, e = .signing fault ∧ (sign config credentials now r).request = r ∧
      (credentials = none ∨ config.options.expirySeconds = .error fault)) ∨ e.IsMalformed := by
  rcases sign_cases config credentials now r with
    ⟨hnone, h⟩ | ⟨c, failure, -, hs, h⟩ | ⟨c, s, -, hs, h⟩ <;> rw [h] at he ⊢
  · cases he
    exact .inl ⟨_, rfl, rfl, .inl hnone⟩
  · cases he
    rcases failure_ofConfig hs with ⟨fault, hfault, rfl⟩ | hfailure
    · exact .inl ⟨fault, rfl, rfl, .inr hfault⟩
    · exact .inr hfailure
  · exact .inr (isMalformed_of_addSignature (of_ofConfig hs).1 he)

theorem failure_sign (he : (sign config credentials now r).failure = some e) :
    (∃ fault, e = .signing fault) ∨ e.IsMalformed :=
  (refused_or_isMalformed he).imp_left fun ⟨fault, hfault, _⟩ => ⟨fault, hfault⟩

/-- Without credentials, or with an expiry that is refused, the signer refuses the request. -/
theorem refuses_of (h : credentials = none ∨ ∃ fault, config.options.expirySeconds = .error fault) :
    ∃ fault, (sign config credentials now r).failure = some (.signing fault) := by
  rcases credentials with _ | c
  · exact ⟨.noCredentials, rfl⟩
  rcases h with h | ⟨fault, h⟩
  · cases h
  have hs : Signer.ofConfig config c now = .error (.signing fault) := by
    rw [ofConfig_eq, h]
    rfl
  refine ⟨fault, ?_⟩
  rw [sign, hs]

/-- A malformed request is no refusal. -/
theorem kind_ne_signing_of_isMalformed (h : e.IsMalformed) : e.kind ≠ .signing := by
  intro hkind
  match e, h with
  | .url _, _ => cases hkind
  | .time fault, _ =>
      simp only [Failure.kind] at hkind
      split at hkind <;> cases hkind
  | .noHost, _ => cases hkind
  | .scopeItem _ _, _ => cases hkind

end

end Signing

end UrlSigning
