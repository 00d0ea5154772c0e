import UrlSigning.Proofs.Pipeline.Alone
import UrlSigning.Proofs.Signing.Body

/-!
# Presigned requests and bodies

A presigned request does not tell of which body it will be sent with: neither the headers of the
request nor what is signed for its payload come from the body, and the body is not handed over.
-/

namespace UrlSigning.Pipeline

open Http

/-- The operation with another body of some type. -/
def Operation.withBody (o : Operation) (body : Bytes) (contentType : Option String) : Operation :=
  { o with body := body, contentType := contentType }

/-- Without default headers, the body of an operation shows in the body of the request only. -/
theorem serialize_withBody (o : Operation) (body : Bytes) (contentType : Option String) :
    (o.withBody body contentType).serialize ⟨true, true⟩ =
      (o.serialize ⟨true, true⟩).withBody (if body.isEmpty then none else some body) := by
  unfold Operation.serialize Operation.withBody Request.withBody
  simp

theorem resultOf_withBody (s : Signing.Signed) (body : Option Bytes) :
    resultOf (s.withBody body) = (resultOf s).map fun r => r.withBody body := by
  unfold resultOf Signing.Signed.withBody
  dsimp only
  cases s.failure <;> rfl

/-- A presigned request is made from all of a signed one but the body. -/
theorem bind_presignedOf_withBody (window : Signing.Window) (x : Except Failure Request)
    (body : Option Bytes) :
    (x.map fun r => r.withBody body).bind (presignedOf window) = x.bind (presignedOf window) := by
  cases x <;> rfl

section

variable (w : Surroundings) (o : Operation) (credentials : Option Signing.Credentials)
  (region : Json) (service : String) (window : Signing.Window) (payload : Option Signing.Payload)

theorem result_presign_withBody (body : Bytes) (contentType : Option String) :
    (presign w (o.withBody body contentType) credentials region service window payload
        []).result =
      (presign w o credentials region service window payload []).result := by
  have hlocation : (presigned window (payload.getD .unsigned)
    (Plugin.setupConfig region service none)).options.location = .query := rfl
  rw [result_presign_alone, result_presign_alone, serialize_withBody,
    Signing.sign_withBody _ hlocation, resultOf_withBody, bind_presignedOf_withBody]

/-- What is presigned does not depend on the body: operations that differ only in their bodies and
in the types of these come to the same presigned request or to the same failure. Nor does a
signature in the query: requests that differ only in their bodies are signed in the same way, and
each of them keeps its own body. -/
theorem presign_ignores_body :
    (∀ body contentType,
      (presign w (o.withBody body contentType) credentials region service window payload
          []).result =
        (presign w o credentials region service window payload []).result) ∧
    ∀ (config : Signing.Config) (now : DateTime) (r : Request) (body : Option Bytes),
      config.options.location = .query →
        Signing.sign config credentials now (r.withBody body) =
          (Signing.sign config credentials now r).withBody body := by
  constructor
  · intro body contentType
    exact result_presign_withBody w o credentials region service window payload body contentType
  · intro config now r body hlocation
    exact Signing.sign_withBody body hlocation credentials now r

end

end UrlSigning.Pipeline
