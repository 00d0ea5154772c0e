import UrlSigning.Proofs.Provider.ObjectUrl
import UrlSigning.Proofs.Run.Turns
import UrlSigning.Proofs.Signing.Parameters
import UrlSigning.Proofs.Verification.Presigning

/-!
# What was presigned for a provider

Presigning for a provider comes to a chain of four steps, none of which reads a clock: the window is
made, the URL of the object is written, the request is signed, and the end of the window is worked
out. What is known of a request that came out of the chain is what its steps say.
-/

namespace UrlSigning.Run

open Signing Pipeline Text

/-! ## The chain -/

/-- How a request for a provider is signed. -/
def configFor (p : Provider) (plan : Plan) (window : Window) : Config :=
  presigned window plan.payload (Plugin.setupConfig p.region service none)

/-- The request that is signed. -/
def requestFor (plan : Plan) (url : String) : Http.Request :=
  Operation.serialize ⟨true, true⟩
    { method := plan.method, url := url, headers := plan.headers }

/-- Signing the request for a provider, and handing over what was signed. -/
def signedFor (p : Provider) (plan : Plan) (window : Window) (url : String) :
    Except Failure Presigned :=
  resultOf (sign (configFor p plan window) p.credentials window.start (requestFor plan url)) >>=
    presignedOf window

theorem result_presignFor (w : Surroundings) (p : Provider) (plan : Plan) (start : DateTime) :
    (presignFor w p plan start).result =
      (windowFor p plan start >>= fun window => p.objectUrl plan.objectKey >>=
        signedFor p plan window) := by
  unfold presignFor
  rcases windowFor p plan start with e | window
  · rfl
  unfold operationFor
  rcases p.objectUrl plan.objectKey with e | url
  · rfl
  exact result_presign_alone w _ p.credentials p.region service window (some plan.payload)

theorem fields_requestFor (plan : Plan) (url : String) :
    (requestFor plan url).headers.fields = plan.headers :=
  fields_serialize_of_omitted _

theorem Window.make_eq_ok {start : DateTime} {length : Duration} {window : Window}
    (h : Window.make start length = .ok window) :
    window.start = start ∧ window.length = length := by
  unfold Window.make at h
  split at h
  · split at h
    · split at h
      · cases h
        exact ⟨rfl, rfl⟩
      · cases h
    · cases h
  · cases h

/-- How long the window for a provider is: as long as the plan or else the provider says. -/
def lengthFor (p : Provider) (plan : Plan) : Except Failure Duration :=
  match plan.expires with
  | some length => .ok length
  | none => (Duration.ofSeconds p.expires).mapError .time

theorem windowFor_eq (p : Provider) (plan : Plan) (start : DateTime) :
    windowFor p plan start =
      (lengthFor p plan >>= fun length => (Window.make start length).mapError .window) := by
  unfold windowFor lengthFor
  cases plan.expires <;> rfl

theorem windowFor_eq_ok {p : Provider} {plan : Plan} {start : DateTime} {window : Window}
    (h : windowFor p plan start = .ok window) :
    lengthFor p plan = .ok window.length ∧ window.start = start := by
  rw [windowFor_eq] at h
  obtain ⟨length, hlength, h⟩ := bind_eq_ok.mp h
  obtain ⟨hstart, rfl⟩ := Window.make_eq_ok (mapError_eq_ok.mp h)
  exact ⟨hlength, hstart⟩

/-- The signer for a provider. -/
def signerFor (p : Provider) (plan : Plan) (c : Credentials) (expires : Int) (time : DateTime) :
    Signer :=
  ⟨some c, p.region, service, .query, time, some plan.payload, false, false, expires⟩

/-- There is a signer for a provider if the window can be written in seconds and the time in
universal time. -/
theorem ofConfig_configFor (p : Provider) (plan : Plan) (window : Window) (c : Credentials)
    (now : DateTime) :
    Signer.ofConfig (configFor p plan window) c now =
      ((expirySeconds (some window.length)).mapError .signing >>= fun expires =>
        (now.toUtc).mapError .time >>= fun time => .ok (signerFor p plan c expires time)) := by
  rw [ofConfig_eq]
  rfl

/-! ## What came out of it -/

/-- The request was presigned by the signer for the object at the URL. -/
structure IsPresignedBy (p : Provider) (plan : Plan) (start : DateTime) (s : Signer) (url : String)
    (m : Presigned) : Prop where
  window : ∃ window, windowFor p plan start = .ok window ∧
    expirySeconds (some window.length) = .ok s.expires
  object : p.objectUrl plan.objectKey = .ok url
  signer : ∃ c, p.credentials = some c ∧ s = signerFor p plan c s.expires s.time
  time : start.toUtc = .ok s.time
  link : (s.addSignature (requestFor plan url)).failure = none ∧
    (s.addSignature (requestFor plan url)).request.url = m.url
  headers : m.headers = .ofPairs (Signer.dropFormType ⟨plan.headers⟩).fields

section

variable {w : Surroundings} {p : Provider} {plan : Plan} {start : DateTime} {m : Presigned}
  {s : Signer} {url : String}

theorem exists_isPresignedBy (h : (presignFor w p plan start).result = .ok m) :
    ∃ s url, IsPresignedBy p plan start s url m := by
  rw [result_presignFor] at h
  obtain ⟨window, hwindow, h⟩ := bind_eq_ok.mp h
  obtain ⟨url, hurl, h⟩ := bind_eq_ok.mp h
  obtain ⟨signed, hsigned, h⟩ := bind_eq_ok.mp h
  obtain ⟨finish, -, h⟩ := bind_eq_ok.mp h
  obtain ⟨c, s, hcredentials, hs, hfailure, rfl⟩ := Verification.signer_of_resultOf hsigned
  rw [ofConfig_configFor] at hs
  obtain ⟨expires, hexpires, hs⟩ := bind_eq_ok.mp hs
  obtain ⟨time, htime, hs⟩ := bind_eq_ok.mp hs
  have htime := mapError_eq_ok.mp htime
  rw [(windowFor_eq_ok hwindow).2] at htime
  obtain rfl := Except.ok.inj hs
  obtain ⟨link, canonical, text, -, -, -, hrequest⟩ := addSignature_query rfl rfl hfailure
  refine ⟨_, url, ⟨window, hwindow, mapError_eq_ok.mp hexpires⟩, hurl, ⟨c, hcredentials, rfl⟩,
    htime, ⟨hfailure, ?_⟩, ?_⟩
  · rw [← Except.ok.inj h]
  · rw [← Except.ok.inj h, hrequest]
    show Entries.ofPairs (Signer.dropFormType (requestFor plan url).headers).fields = _
    rw [← fields_requestFor plan url]

/-- A request expires at the end of the window for the provider. -/
theorem expiresAt_of_presignFor (h : (presignFor w p plan start).result = .ok m) :
    ∃ window finish, windowFor p plan start = .ok window ∧ window.finish = .ok finish ∧
      m.expiresAt = some finish := by
  rw [result_presignFor] at h
  obtain ⟨window, hwindow, h⟩ := bind_eq_ok.mp h
  obtain ⟨url, -, h⟩ := bind_eq_ok.mp h
  obtain ⟨signed, -, h⟩ := bind_eq_ok.mp h
  obtain ⟨finish, hfinish, h⟩ := bind_eq_ok.mp h
  cases h
  exact ⟨window, finish, hwindow, mapError_eq_ok.mp hfinish, rfl⟩

/-- The last parameter of the name is the value, and it is the only one unless the bucket of the
provider brings a query of its own. -/
def Carries (p : Provider) (m : Presigned) (name value : String) : Prop :=
  ∃ own, m.parameters name = own ++ [value] ∧ ('?' ∉ p.bucket.plain.toList → own = [])

theorem IsPresignedBy.exists_own (h : IsPresignedBy p plan start s url m) :
    ∃ fields credential, fieldsToSign (withoutFormType (requestFor plan url)) = .ok fields ∧
      ∀ name, name ≠ "X-Amz-Signature" → ∃ c own, c.token = none ∧
        ('?' ∉ p.bucket.plain.toList → own = []) ∧
        m.parameters name = own ++
          Url.Query.valuesOf name (s.authParameters c credential (signedNames fields)) := by
  obtain ⟨c, hc, hs⟩ := h.signer
  obtain ⟨hfailure, hlink⟩ := h.link
  have hown : s.location = .query ∧ s.credentials = some c := by
    rw [hs]
    exact ⟨rfl, rfl⟩
  have htoken : c.token = none := by
    unfold Provider.credentials at hc
    split at hc <;> cases hc
    rfl
  obtain ⟨link, -, -, hquery, -⟩ := addSignature_query hown.1 hown.2 hfailure
  obtain ⟨-, -, parts, -, -, -, hparts, -⟩ := queryUrl_eq_ok hquery
  obtain ⟨fields, credential, hfields, -, hparameters⟩ := parameters_addSignature
    (r := requestFor plan url) hown.1 hown.2 hparts hfailure hlink.symm
  refine ⟨fields, credential, hfields, fun name hname => ⟨c, _, htoken, ?_, hparameters name hname⟩⟩
  intro hbucket
  have hquery : parts.query = "" :=
    Url.query_of_split hparts (Provider.mark_not_mem_objectUrl h.object hbucket)
  rw [hquery]
  rfl

/-- A presigned URL carries the time, the expiry and the names of the signed headers. -/
theorem IsPresignedBy.carries (h : IsPresignedBy p plan start s url m) :
    ∃ fields, fieldsToSign (withoutFormType (requestFor plan url)) = .ok fields ∧
      Carries p m "X-Amz-Date" s.stamp ∧ Carries p m "X-Amz-Expires" (toString s.expires) ∧
      Carries p m "X-Amz-SignedHeaders" (signedNames fields) := by
  obtain ⟨fields, credential, hfields, hown⟩ := h.exists_own
  have hvalue {name value : String} (hname : name ≠ "X-Amz-Signature")
      (hvalues : ∀ c, c.token = none → Url.Query.valuesOf name
        (s.authParameters c credential (signedNames fields)) = [value]) :
      Carries p m name value := by
    obtain ⟨c, own, htoken, hbucket, hparameters⟩ := hown name hname
    exact ⟨own, by rw [hparameters, hvalues c htoken], hbucket⟩
  have hparameters (c : Credentials) (htoken : c.token = none) :
      s.authParameters c credential (signedNames fields) =
        [("X-Amz-Algorithm", algorithm), ("X-Amz-Credential", credential), ("X-Amz-Date", s.stamp),
          ("X-Amz-Expires", toString s.expires), ("X-Amz-SignedHeaders", signedNames fields)] := by
    rw [Signer.authParameters, htoken]
    rfl
  refine ⟨fields, hfields, hvalue (by decide) fun c htoken => ?_,
    hvalue (by decide) fun c htoken => ?_, hvalue (by decide) fun c htoken => ?_⟩
  · rw [hparameters c htoken]
    rfl
  · rw [hparameters c htoken]
    rfl
  · rw [hparameters c htoken]
    rfl

end

end UrlSigning.Run
