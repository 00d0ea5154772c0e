import UrlSigning.Proofs.Pipeline.Names
import UrlSigning.Proofs.Signing.Prepared

/-!
# Signing a request again

Before a request is signed in a header, the signer takes its own fields out, in whatever case they
are written, and puts them at the end again: the date, the token and, when the rest is signed, the
signature. A date of the request decides under which name the date is put, and is replaced by one
under the same name. So nothing that an earlier signature has put in is left when a request is
signed again, and it is signed as the request that was signed first.
-/

namespace UrlSigning

open Http

/-- The request without a signature in a header, in whatever case that is written. -/
def Http.Request.withoutAuthorization (r : Request) : Request :=
  { r with headers := r.headers.erase "Authorization" }

namespace Signing

/-! ## What the signer puts in the place of its own fields -/

/-- The field of a session token, if there is one. -/
def tokenFields (token : Option String) : List (String × String) :=
  match token with
  | none => []
  | some token => if token.isEmpty then [] else [("X-Amz-Security-Token", token)]

/-- The names of the fields that a signer with the token puts in. -/
def ownNames (token : Option String) : List String :=
  ["Authorization", "Date", "X-Amz-Date"] ++ (tokenFields token).map (·.1)

/-- The field of the date, under the name that the request has for it. -/
def Signer.dateField (s : Signer) (dated : Bool) : Except Time.Fault (String × String) :=
  if dated then
    (fun date => ("Date", Time.Stamp.mailText date s.time)) <$> Time.Stamp.readBack s.time
  else .ok ("X-Amz-Date", s.stamp)

section

variable {s : Signer} {c : Credentials} {r : Request}

theorem setDate_eq_ok {h : Headers} {field : String × String}
    (hfield : s.dateField (h.has "Date") = .ok field) :
    s.setDate h = ((h.without ["Date", "X-Amz-Date"]).add field.1 field.2, none) := by
  unfold Signer.dateField at hfield
  unfold Signer.setDate
  rcases hdate : h.has "Date" with _ | _
  · -- there is no date to be taken away
    rw [hdate] at hfield
    cases hfield
    have hnone : h.without ["Date"] = h := by
      rw [← Headers.erase_eq_without, Headers.erase_of_has_eq_false hdate]
    have herased : h.without ["Date", "X-Amz-Date"] = h.erase "X-Amz-Date" := by
      rw [Headers.erase_eq_without, ← congrArg (Headers.without ["X-Amz-Date"]) hnone,
        Headers.without_without]
      rfl
    rw [herased]
    rfl
  · rw [hdate] at hfield
    obtain ⟨date, hread, rfl⟩ := map_eq_ok.mp hfield
    rw [if_pos rfl]
    dsimp only
    rw [hread]
    dsimp only
    rw [Headers.erase_eq_without, Headers.erase_eq_without,
      Headers.without_add_of_not_any (by decide), Headers.without_without]
    rfl

theorem setDate_eq_error {h : Headers} {fault : Time.Fault}
    (hfield : s.dateField (h.has "Date") = .error fault) :
    (s.setDate h).2 = some (.time fault) := by
  unfold Signer.dateField at hfield
  unfold Signer.setDate
  rcases hdate : h.has "Date" with _ | _
  · rw [hdate] at hfield
    cases hfield
  · rw [hdate] at hfield
    rw [if_pos rfl]
    dsimp only
    rw [map_eq_error.mp hfield]

theorem setToken_eq (token : Option String) (h : Headers) :
    Signer.setToken token h =
      ⟨(h.without ((tokenFields token).map (·.1))).fields ++ tokenFields token⟩ := by
  have hnone : h.without [] = h := by simp [Headers.without]
  unfold Signer.setToken tokenFields
  rcases token with _ | token
  · simp [hnone]
  · dsimp only
    split
    · simp [hnone]
    · rw [Headers.set, Headers.erase_eq_without]
      rfl

/-- The date is put under the name that decides where the next one is put. -/
theorem fst_of_dateField {dated : Bool} {field : String × String}
    (hfield : s.dateField dated = .ok field) :
    field.1 = if dated then "Date" else "X-Amz-Date" := by
  unfold Signer.dateField at hfield
  cases dated with
  | false =>
      cases hfield
      rfl
  | true =>
      obtain ⟨date, -, rfl⟩ := map_eq_ok.mp hfield
      rfl

theorem dateName_of_dateField {dated : Bool} {field : String × String}
    (hfield : s.dateField dated = .ok field) : field.1 = "Date" ∨ field.1 = "X-Amz-Date" := by
  rw [fst_of_dateField hfield]
  cases dated with
  | false => exact .inr rfl
  | true => exact .inl rfl

theorem fst_of_mem_tokenFields {token : Option String} {f : String × String}
    (hf : f ∈ tokenFields token) : f.1 = "X-Amz-Security-Token" := by
  unfold tokenFields at hf
  split at hf
  · cases hf
  · split at hf
    · cases hf
    · rw [List.mem_singleton.mp hf]

/-- The name of the token is no name of a date. -/
theorem not_any_tokenFields {name : String} (hname : name = "Date" ∨ name = "X-Amz-Date")
    (token : Option String) :
    ((tokenFields token).map (·.1)).any (Headers.sameName name) = false := by
  rw [List.any_eq_false]
  intro tokenName htoken
  obtain ⟨f, hf, rfl⟩ := List.mem_map.mp htoken
  rw [fst_of_mem_tokenFields hf]
  rcases hname with rfl | rfl <;> decide

theorem has_date_erase_authorization (h : Headers) :
    (h.erase "Authorization").has "Date" = h.has "Date" := by
  rw [Headers.has_erase_eq, show Headers.sameName "Authorization" "Date" = false by decide]
  simp

/-- A prepared request has the fields that are not the signer's, and behind them the date and the
token. -/
theorem prepareHeaders_eq_ok {field : String × String}
    (hfield : s.dateField (r.headers.has "Date") = .ok field) :
    s.prepareHeaders c r = ({ r with
      headers := ⟨(r.headers.without (ownNames c.token)).fields ++
        field :: tokenFields c.token⟩ }, none) := by
  have hset := setDate_eq_ok ((has_date_erase_authorization r.headers).symm ▸ hfield)
  have htoken := not_any_tokenFields (dateName_of_dateField hfield) c.token
  unfold Signer.prepareHeaders
  rw [hset]
  dsimp only
  rw [setToken_eq, Headers.without_add_of_not_any htoken, Headers.erase_eq_without,
    Headers.without_without, Headers.without_without, Headers.add, List.append_assoc]
  rfl

theorem prepareHeaders_eq_error {fault : Time.Fault}
    (hfield : s.dateField (r.headers.has "Date") = .error fault) :
    (s.prepareHeaders c r).2 = some (.time fault) := by
  have hset := setDate_eq_error ((has_date_erase_authorization r.headers).symm ▸ hfield)
  unfold Signer.prepareHeaders
  rcases hdate : s.setDate (r.headers.erase "Authorization") with ⟨h, _ | failure⟩ <;>
    rw [hdate] at hset
  · cases hset
  · exact hset

end

/-! ## Requests that are the same to the signer -/

/-- The requests differ in nothing but fields that a signer with the token takes out, and both or
none of them have a date. -/
structure SameToSigner (token : Option String) (r r' : Request) : Prop where
  method : r.method = r'.method
  url : r.url = r'.url
  body : r.body = r'.body
  others : r.headers.without (ownNames token) = r'.headers.without (ownNames token)
  dated : r.headers.has "Date" = r'.headers.has "Date"

/-- Two signatures of which the same is told, and which fail in the same way or leave the same
request. -/
structure Signed.SameAs (signed signed' : Signed) : Prop where
  log : signed.log = signed'.log
  failure : signed.failure = signed'.failure
  request : signed.failure = none → signed.request = signed'.request

section

variable {s : Signer} {c : Credentials} {r r' : Request}

namespace Signed.SameAs

variable {a b d : Signed}

theorem of_eq (h : a = b) : a.SameAs b := by
  subst h
  exact ⟨rfl, rfl, fun _ => rfl⟩

theorem symm (h : a.SameAs b) : b.SameAs a where
  log := h.log.symm
  failure := h.failure.symm
  request hnone := (h.request (h.failure.trans hnone)).symm

theorem trans (h : a.SameAs b) (h' : b.SameAs d) : a.SameAs d where
  log := h.log.trans h'.log
  failure := h.failure.trans h'.failure
  request hnone := (h.request hnone).trans (h'.request (h.failure.symm.trans hnone))

end Signed.SameAs

/-- Requests that are the same to the signer are prepared as the same request, unless the date
cannot be written. -/
theorem sameAs_addSignature (hlocation : s.location = .headers) (hc : s.credentials = some c)
    (h : SameToSigner c.token r r') : (s.addSignature r).SameAs (s.addSignature r') := by
  unfold Signer.addSignature Signer.prepare
  rw [hc, hlocation]
  dsimp only
  rcases hfield : s.dateField (r.headers.has "Date") with fault | field
  · have hr := prepareHeaders_eq_error (c := c) hfield
    have hr' := prepareHeaders_eq_error (c := c) (h.dated ▸ hfield)
    rcases hprepare : s.prepareHeaders c r with ⟨prepared, failure⟩
    rcases hprepare' : s.prepareHeaders c r' with ⟨prepared', failure'⟩
    rw [hprepare] at hr
    rw [hprepare'] at hr'
    dsimp only at hr hr'
    rw [hr, hr']
    exact ⟨rfl, rfl, by rintro ⟨⟩⟩
  · rw [prepareHeaders_eq_ok hfield, prepareHeaders_eq_ok (h.dated ▸ hfield), ← h.others]
    apply Signed.SameAs.of_eq
    rw [h.method, h.url, h.body]

/-! ## Requests that were signed -/

theorem any_ownNames_of_date {name : String} (hname : name = "Date" ∨ name = "X-Amz-Date")
    (token : Option String) : (ownNames token).any (Headers.sameName name) = true := by
  rw [ownNames, List.any_append]
  rcases hname with rfl | rfl <;> simp [Headers.sameName]

theorem any_ownNames_of_token {token : Option String} {f : String × String}
    (hf : f ∈ tokenFields token) : (ownNames token).any (Headers.sameName f.1) = true := by
  rw [ownNames, List.any_append, Bool.or_eq_true]
  refine .inr (List.any_eq_true.mpr ⟨f.1, List.mem_map_of_mem hf, ?_⟩)
  simp [Headers.sameName]

/-- Taking out the signer's own fields twice is taking them out once. -/
theorem without_own_idem (token : Option String) (h : Headers) :
    (h.without (ownNames token)).without (ownNames token) = h.without (ownNames token) := by
  rw [Headers.without_without]
  apply Headers.without_congr
  intro name
  rw [List.any_append, Bool.or_self]

theorem not_any_date_tokenFields (token : Option String) :
    (tokenFields token).any (fun f => Headers.sameName f.1 "Date") = false := by
  rw [List.any_eq_false]
  intro f hf
  rw [fst_of_mem_tokenFields hf]
  decide

theorem has_date_without_own (token : Option String) (h : Headers) :
    (h.without (ownNames token)).has "Date" = false := by
  rw [Headers.has, List.any_eq_false]
  intro f hf hdate
  obtain ⟨-, hother⟩ := List.mem_filter.mp hf
  simp only [ownNames, List.any_append, List.any_cons, hdate] at hother
  simp at hother

/-- A request is the same to the signer when fields of the signer stand in the place of those that
it had, with a date among them just when there was one. -/
theorem sameToSigner_with_own {token : Option String} {own : List (String × String)}
    (hown : ∀ f ∈ own, (ownNames token).any (Headers.sameName f.1) = true)
    (hdate : own.any (fun f => Headers.sameName f.1 "Date") = r.headers.has "Date") :
    SameToSigner token r
      { r with headers := ⟨(r.headers.without (ownNames token)).fields ++ own⟩ } where
  method := rfl
  url := rfl
  body := rfl
  others := by
    dsimp only
    rw [Headers.without_append hown, without_own_idem]
  dated := by
    have hothers := has_date_without_own token r.headers
    unfold Headers.has at hothers hdate ⊢
    rw [List.any_append, hothers, Bool.false_or, hdate]

/-- A request that was signed is the same to the signer as the one that it was made from. -/
theorem sameToSigner_signed {prepared signed : Request} {signature : String}
    (hlocation : s.location = .headers) (hprepare : s.prepare c r = (prepared, none))
    (hinject : s.inject c prepared signature = .ok signed) : SameToSigner c.token r signed := by
  unfold Signer.prepare at hprepare
  rw [hlocation] at hprepare
  dsimp only at hprepare
  rcases hfield : s.dateField (r.headers.has "Date") with fault | field
  · have hfailure := prepareHeaders_eq_error (c := c) hfield
    rw [hprepare] at hfailure
    cases hfailure
  rw [prepareHeaders_eq_ok hfield] at hprepare
  cases hprepare
  unfold Signer.inject at hinject
  rw [hlocation] at hinject
  obtain ⟨value, -, hinject⟩ := bind_eq_ok.mp hinject
  cases hinject
  have hown : ∀ f ∈ field :: tokenFields c.token ++ [("Authorization", value)],
      (ownNames c.token).any (Headers.sameName f.1) = true := by
    intro f hf
    simp only [List.cons_append, List.mem_cons, List.mem_append, List.not_mem_nil, or_false] at hf
    rcases hf with rfl | hf | rfl
    · exact any_ownNames_of_date (dateName_of_dateField hfield) c.token
    · exact any_ownNames_of_token hf
    · simp [ownNames, Headers.sameName]
  have hdate : (field :: tokenFields c.token ++ [("Authorization", value)]).any
      (fun f => Headers.sameName f.1 "Date") = r.headers.has "Date" := by
    -- of the fields that were put in, only the date can be called so
    have hsignature : Headers.sameName "Authorization" "Date" = false := by decide
    rw [List.cons_append, List.any_cons, List.any_append, not_any_date_tokenFields,
      fst_of_dateField hfield]
    cases r.headers.has "Date" <;> simp [hsignature] <;> decide
  have hsame := sameToSigner_with_own hown hdate
  rw [← List.append_assoc] at hsame
  exact hsame

/-- The signature that a request has makes no difference to the signer. -/
theorem sameToSigner_of_withoutAuthorization (token : Option String)
    (h : r.withoutAuthorization = r'.withoutAuthorization) : SameToSigner token r r' := by
  obtain ⟨hmethod, hurl, hheaders, hbody⟩ := Request.mk.inj h
  -- the signer takes the signature out first
  have hwithout (r : Request) : r.headers.without (ownNames token) =
      (r.headers.erase "Authorization").without ("Date" :: "X-Amz-Date" ::
        (tokenFields token).map (·.1)) := by
    rw [Headers.erase_eq_without, Headers.without_without]
    rfl
  refine ⟨hmethod, hurl, hbody, ?_, ?_⟩
  · rw [hwithout, hwithout, hheaders]
  · rw [← has_date_erase_authorization, hheaders, has_date_erase_authorization]

end

section

variable {config : Config} {credentials : Option Credentials} {c : Credentials}
  {now first : DateTime} {r r' : Request}

theorem sameAs_sign (now : DateTime) (hlocation : config.options.location = .headers)
    (h : SameToSigner (c.withoutToken config.options.omitToken).token r r') :
    (sign config (some c) now r).SameAs (sign config (some c) now r') := by
  unfold sign
  dsimp only
  rcases hs : Signer.ofConfig config c now with failure | s
  · exact ⟨rfl, rfl, by rintro ⟨⟩⟩
  · obtain ⟨hc, hplace⟩ := of_ofConfig hs
    have hsame := sameAs_addSignature (hplace.trans hlocation) hc h
    dsimp only
    rw [h.method, h.url]
    exact ⟨congrArg (_ :: ·) hsame.log, hsame.failure, hsame.request⟩

theorem exists_sameToSigner_sign (hlocation : config.options.location = .headers)
    (h : (sign config credentials now r).failure = none) :
    ∃ c, credentials = some c ∧ SameToSigner (c.withoutToken config.options.omitToken).token r
      (sign config credentials now r).request := by
  obtain ⟨prepared, fields, c, s, canonical, text, hc, hs, hprepare, -, -, -, hinject⟩ :=
    exists_signedThrough h
  exact ⟨c, hc, sameToSigner_signed ((of_ofConfig hs).2.trans hlocation) hprepare hinject⟩

/-- A request that was signed in a header, with whatever fields it had before, and is signed again
at another time, is signed as the request that was signed first would be at that time: the same
texts are signed, and signing fails in the same way or leaves the same request, with the same fields
in the same order. At the same time it stays as it is. The first signature is not read: whatever
stands in its place, the second one is the same. -/
theorem sign_again_as_once (second : DateTime) (hlocation : config.options.location = .headers)
    (h : (sign config credentials first r).failure = none) :
    let signed := (sign config credentials first r).request
    (sign config credentials second signed).SameAs (sign config credentials second r) ∧
    ((sign config credentials first signed).failure = none ∧
      (sign config credentials first signed).request = signed) ∧
    ∀ r', r'.withoutAuthorization = signed.withoutAuthorization →
      (sign config credentials second r').SameAs (sign config credentials second r) := by
  dsimp only
  obtain ⟨c, rfl, hsame⟩ := exists_sameToSigner_sign hlocation h
  have hfirst := sameAs_sign first hlocation hsame
  have hsecond := sameAs_sign second hlocation hsame
  refine ⟨hsecond.symm, ⟨hfirst.failure.symm.trans h, (hfirst.request h).symm⟩, ?_⟩
  intro r' hr'
  have hagain := sameToSigner_of_withoutAuthorization
    (c.withoutToken config.options.omitToken).token hr'
  exact (sameAs_sign second hlocation hagain).trans hsecond.symm

end

/-! ### A request with fields of an earlier day -/

section

open Pipeline

namespace Sample

/-- A request that was signed before, with a date and with a token, in letters of other cases. -/
def stale : Request where
  method := "PUT"
  url := (Sample.reading "/a.txt").url
  headers := ⟨[("date", "Tue, 09 Jan 2024 12:00:00 -0000"), ("X-AMZ-DATE", "20240109T120000Z"),
    ("AUTHORIZATION", "AWS4-HMAC-SHA256"), ("x-amz-meta-owner", "me"),
    ("x-amz-security-token", "old")]⟩
  body := some [104, 105]

/-- One hour after noon. -/
def oneHourLater : DateTime := ⟨63840488400000000, some .zero, by decide⟩

/-- Signatures for the store of objects, in a header. -/
def inHeader : Config := Plugin.setupConfig "us-east-1" "s3" none

end Sample

theorem failure_sign_stale {time : DateTime} (htime : time.toUtc = .ok time)
    (hread : (Time.Stamp.readBack time).isOk = true) :
    (sign Sample.inHeader (some Sample.sessionKeys) time Sample.stale).failure = none := by
  obtain ⟨parts, hparts, hhosted⟩ :=
    split_reading "/a.txt" fun c hc => by cases hc; rfl
  obtain ⟨host, hhost⟩ := Url.exists_host? hhosted hparts
  refine failure_sign_dated rfl htime ⟨_, rfl⟩ ⟨_, rfl⟩ (fun _ => ?_) hparts hhost
  rcases hdate : Time.Stamp.readBack time with fault | date
  · rw [hdate] at hread
    cases hread
  · exact ⟨date, rfl⟩

theorem sign_again_as_once_stale :
    Sample.inHeader.options.location = .headers ∧
    ∃ signed, sign Sample.inHeader (some Sample.sessionKeys) Sample.noon Sample.stale = signed ∧
      signed.failure = none ∧
      ∃ again, sign Sample.inHeader (some Sample.sessionKeys) Sample.oneHourLater signed.request =
          again ∧ again.failure = none ∧
        again.request = (sign Sample.inHeader (some Sample.sessionKeys) Sample.oneHourLater
          Sample.stale).request := by
  have hnoon : (sign Sample.inHeader (some Sample.sessionKeys) Sample.noon
      Sample.stale).failure = none := failure_sign_stale rfl (by decide +kernel)
  have hlater : (sign Sample.inHeader (some Sample.sessionKeys) Sample.oneHourLater
      Sample.stale).failure = none := failure_sign_stale rfl (by decide +kernel)
  obtain ⟨hagain, -, -⟩ := sign_again_as_once Sample.oneHourLater rfl hnoon
  have hsecond := hagain.failure.trans hlater
  exact ⟨rfl, _, rfl, hnoon, _, rfl, hsecond, hagain.request hsecond⟩

end

end Signing

end UrlSigning
