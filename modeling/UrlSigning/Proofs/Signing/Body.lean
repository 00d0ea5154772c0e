import UrlSigning.Proofs.Signing.Signer

/-!
# Bodies and signatures in the query

A signer for the query may move a body into the query, where it is read as parameters. This one
never does: the body is taken out of the request before it is prepared and put back after that,
whether the preparation fails or not. So nothing that is signed comes from the body, and a request
with another body is signed in the same way.
-/

namespace UrlSigning

open Http

/-- The request with another body. -/
def Http.Request.withBody (r : Request) (body : Option Bytes) : Request :=
  { r with body := body }

namespace Signing

/-- What signing leaves, with another body in the request. -/
def Signed.withBody (s : Signed) (body : Option Bytes) : Signed :=
  { s with request := s.request.withBody body }

/-! ## A body that is taken out and put back -/

/-- A preparation of a request: what it leaves, and the failure if there was one. -/
abbrev Preparation := Request → Request × Option Failure

/-- The preparation of the request without its body, which is put back after it. -/
def withBodyAside (prepare : Preparation) : Preparation := fun r =>
  let prepared := prepare (r.withBody none)
  (prepared.1.withBody r.body, prepared.2)

/-- Whatever a preparation does to the body, a body that was set aside is not touched. -/
theorem body_withBodyAside (prepare : Preparation) (r : Request) :
    (withBodyAside prepare r).1.body = r.body := rfl

/-- Whatever a preparation reads, it reads nothing of a body that was set aside. -/
theorem withBodyAside_withBody (prepare : Preparation) (r : Request) (body : Option Bytes) :
    withBodyAside prepare (r.withBody body) =
      ((withBodyAside prepare r).1.withBody body, (withBodyAside prepare r).2) := rfl

/-- How a body is read as parameters, which may fail. -/
abbrev BodyReader := Bytes → Except Failure (List (String × String))

section

variable (read : BodyReader) (s : Signer) (c : Credentials)

/-- The parameters that a body is read as, if there is one. -/
def bodyParameters (r : Request) : Except Failure (List (String × String)) :=
  if (r.body.getD []).isEmpty then pure [] else read (r.body.getD [])

/-- The URL with the parameters of the body put over those that it has, and those of the signature
after them. -/
def movingUrl (r : Request) : Except Failure String := do
  let fields ← fieldsToSign r
  let credential ← s.scope.credential c.access
  let parts ← (Url.split r.url).mapError .url
  let moved ← bodyParameters read r
  let own := Entries.putAll moved (Url.Query.firstValues (Url.Query.read parts.query))
  let query := (if own.isEmpty then "" else Url.Query.write own ++ "&") ++
    Url.Query.write (s.authParameters c credential (signedNames fields))
  return Url.join { parts with query := query }

/-- The preparation that moves the body into the query and leaves an empty one. -/
def prepareMoving : Preparation := fun r =>
  let r := { r with headers := Signer.dropFormType r.headers }
  match movingUrl read s c r with
  | .ok url => ({ r with url := url, body := r.body.map fun _ => [] }, none)
  | .error failure => (r, some failure)

theorem movingUrl_of_noBody {r : Request} (h : r.body = none) :
    movingUrl read s c r = s.queryUrl c r := by
  have hmoved : bodyParameters read r = .ok [] := by
    rw [bodyParameters, h]
    rfl
  unfold movingUrl Signer.queryUrl
  rw [hmoved]
  rfl

/-- The signer prepares a request as one that moves bodies does, with the body set aside. -/
theorem prepareQuery_eq_withBodyAside (r : Request) :
    s.prepareQuery c r = withBodyAside (prepareMoving read s c) r := by
  have hurl : movingUrl read s c
      { r.withBody none with headers := Signer.dropFormType r.headers } =
        s.queryUrl c { r with headers := Signer.dropFormType r.headers } :=
    movingUrl_of_noBody read s c rfl
  unfold withBodyAside prepareMoving Signer.prepareQuery
  dsimp only
  rw [show (r.withBody none).headers = r.headers from rfl, hurl]
  cases s.queryUrl c { r with headers := Signer.dropFormType r.headers } <;> rfl

end

/-! ## Requests that differ in the body -/

section

variable {s : Signer} {c : Credentials} {r : Request} (body : Option Bytes)

theorem prepareQuery_withBody :
    s.prepareQuery c (r.withBody body) =
      ((s.prepareQuery c r).1.withBody body, (s.prepareQuery c r).2) := by
  -- any reader will do, since none is asked
  have haside := prepareQuery_eq_withBodyAside (fun _ => pure []) s c
  rw [haside, haside]
  exact withBodyAside_withBody _ r body

/-- What is signed for the payload of a signature in the query does not depend on the body. -/
theorem payloadHash_withBody (hlocation : s.location = .query) :
    s.payloadHash (r.withBody body) = s.payloadHash r := by
  unfold Signer.payloadHash
  rw [hlocation]
  cases s.payload <;> rfl

theorem canonicalRequest_withBody (hlocation : s.location = .query) :
    canonicalRequest s.form (r.withBody body) = canonicalRequest s.form r := by
  have hhash : s.form.payloadHash (r.withBody body) = s.form.payloadHash r :=
    payloadHash_withBody body hlocation
  unfold canonicalRequest
  rw [hhash]
  rfl

theorem signPrepared_withBody (hlocation : s.location = .query) :
    s.signPrepared c (r.withBody body) = (s.signPrepared c r).withBody body := by
  unfold Signer.signPrepared
  rw [canonicalRequest_withBody body hlocation]
  rcases canonicalRequest s.form r with failure | canonical
  · rfl
  dsimp only
  rcases stringToSign s.stamp s.scope canonical with failure | text
  · rfl
  simp only [Signer.inject, hlocation]
  rfl

theorem addSignature_withBody (hlocation : s.location = .query) :
    s.addSignature (r.withBody body) = (s.addSignature r).withBody body := by
  unfold Signer.addSignature Signer.prepare
  rcases s.credentials with _ | c
  · rfl
  rw [hlocation]
  dsimp only
  rw [prepareQuery_withBody body]
  rcases s.prepareQuery c r with ⟨prepared, _ | failure⟩
  · exact signPrepared_withBody body hlocation
  · rfl

/-- A signature in the query leaves a request with another body as it leaves the request, with the
other body in it. -/
theorem sign_withBody {config : Config} (hlocation : config.options.location = .query)
    (credentials : Option Credentials) (now : DateTime) (r : Request) :
    sign config credentials now (r.withBody body) =
      (sign config credentials now r).withBody body := by
  unfold sign
  rcases credentials with _ | c
  · rfl
  dsimp only
  rcases hs : Signer.ofConfig config c now with failure | s
  · rfl
  dsimp only
  rw [addSignature_withBody body ((of_ofConfig hs).2.trans hlocation)]
  rfl

end

end Signing

end UrlSigning
