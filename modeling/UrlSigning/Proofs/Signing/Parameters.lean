import UrlSigning.Pipeline.Presign
import UrlSigning.Proofs.Url.Kept
import UrlSigning.Proofs.Verification.Signature

/-!
# Parameters of a signed URL

The names and values in the query of a URL that was signed, whatever the URL was before: those that
it had, then those of the signature, and last the signature itself. If the URL has a fragment, the
signature is put behind that, and so is no parameter.
-/

namespace UrlSigning

open Signing Text

/-- The values of a name, in order. -/
def Url.Query.valuesOf (name : String) (pairs : List (String × String)) : List String :=
  (pairs.filter (·.1 == name)).map (·.2)

theorem Url.Query.valuesOf_append (name : String) (pairs more : List (String × String)) :
    valuesOf name (pairs ++ more) = valuesOf name pairs ++ valuesOf name more := by
  rw [valuesOf, List.filter_append, List.map_append, valuesOf, valuesOf]

theorem Url.Query.valuesOf_eq_nil {pairs : List (String × String)} {name : String}
    (h : name ∉ Entries.keys pairs) : valuesOf name pairs = [] := by
  have hnone : pairs.filter (·.1 == name) = [] := by
    rw [List.filter_eq_nil_iff]
    intro p hp hname
    exact h (beq_iff_eq.mp hname ▸ List.mem_map_of_mem hp)
  rw [valuesOf, hnone]
  rfl

/-- A name that comes once has one value. -/
theorem Url.Query.valuesOf_of_nodup {pairs : List (String × String)}
    (h : (Entries.keys pairs).Nodup) {p : String × String} (hp : p ∈ pairs) :
    valuesOf p.1 pairs = [p.2] := by
  induction pairs with
  | nil => cases hp
  | cons q rest ih =>
      obtain ⟨hq, hrest⟩ := List.nodup_cons.mp h
      change q.1 ∉ Entries.keys rest at hq
      rw [valuesOf]
      rcases List.mem_cons.mp hp with rfl | hp
      · rw [List.filter_cons_of_pos (by simp), List.map_cons]
        exact congrArg _ (valuesOf_eq_nil hq)
      · have hne : q.1 ≠ p.1 := by
          intro heq
          rw [heq] at hq
          exact hq (List.mem_map_of_mem hp)
        rw [List.filter_cons_of_neg (by simpa using hne)]
        exact ih hrest hp

/-- The values that a name has in the query of the URL. -/
def Presigned.parameters (m : Presigned) (name : String) : List String :=
  match Url.split m.url with
  | .ok parts => Url.Query.valuesOf name (Url.Query.read parts.query)
  | .error _ => []

namespace Signing

/-- How the parts of a URL change when it is given parameters and a signature: they go to its query,
but the signature goes to its fragment if it has one. -/
structure GivesSignature (parts : Url.Parts) (pairs : List (String × String)) (signature : String)
    (q : Url.Parts) : Prop where
  place : parts.SamePlace q ↔ parts.KeepsPlace
  atQuery : parts.fragment = "" → q.fragment = "" ∧
    Url.Query.read q.query = pairs ++ [("X-Amz-Signature", signature)]
  atFragment : parts.fragment ≠ "" →
    q.fragment = parts.fragment ++ s!"&X-Amz-Signature={signature}" ∧
      Url.Query.read q.query = pairs

theorem GivesSignature.valuesOf {parts q : Url.Parts} {pairs : List (String × String)}
    {signature name : String} (h : GivesSignature parts pairs signature q)
    (hname : name ≠ "X-Amz-Signature") :
    Url.Query.valuesOf name (Url.Query.read q.query) = Url.Query.valuesOf name pairs := by
  have hsignature : Url.Query.valuesOf name [("X-Amz-Signature", signature)] = [] := by
    simp [Url.Query.valuesOf, Ne.symm hname]
  by_cases hfragment : parts.fragment = ""
  · rw [(h.atQuery hfragment).2, Url.Query.valuesOf_append, hsignature, List.append_nil]
  · rw [(h.atFragment hfragment).2]

/-- A fragment with a signature behind it is another one. -/
theorem GivesSignature.fragment_ne {parts q : Url.Parts} {pairs : List (String × String)}
    {signature : String} (h : GivesSignature parts pairs signature q)
    (hfragment : parts.fragment ≠ "") : q.fragment ≠ parts.fragment := by
  intro hsame
  have hlength := congrArg String.length (h.atFragment hfragment).1
  have hmark : (toString "&X-Amz-Signature=").length = 17 := by decide
  rw [hsame, String.length_append, String.length_append, hmark] at hlength
  omega

/-! ## The parameters of the signer -/

section

variable (s : Signer) (c : Credentials) (credential names : String)

theorem valuesOf_expires :
    Url.Query.valuesOf "X-Amz-Expires" (s.authParameters c credential names) =
      [toString s.expires] := by
  rw [Signer.authParameters, Url.Query.valuesOf_append]
  cases c.token <;> rfl

theorem valuesOf_signedHeaders :
    Url.Query.valuesOf "X-Amz-SignedHeaders" (s.authParameters c credential names) = [names] := by
  rw [Signer.authParameters, Url.Query.valuesOf_append]
  cases c.token <;> rfl

/-- The parameter of a session token is written whenever there is one, even if it is empty. -/
theorem valuesOf_token :
    Url.Query.valuesOf "X-Amz-Security-Token" (s.authParameters c credential names) =
      c.token.toList := by
  rw [Signer.authParameters, Url.Query.valuesOf_append]
  cases c.token <;> rfl

end

/-! ## Signed URLs -/

variable {s : Signer} {c : Credentials} {r : Http.Request} {m : Presigned} {parts : Url.Parts}
  {name : String}

/-- A signed URL has the first value of each name that the URL had, the parameters of the signer,
and the signature. -/
theorem split_addSignature (hlocation : s.location = .query) (hc : s.credentials = some c)
    (hparts : Url.split r.url = .ok parts) (h : (s.addSignature r).failure = none) :
    ∃ fields credential signature q, fieldsToSign (withoutFormType r) = .ok fields ∧
      s.scope.credential c.access = .ok credential ∧
      Url.split (s.addSignature r).request.url = .ok q ∧
      GivesSignature parts (Url.Query.firstValues (Url.Query.read parts.query) ++
        s.authParameters c credential (signedNames fields)) signature q := by
  obtain ⟨url, canonical, text, hquery, hcanonical, -, hrequest⟩ :=
    addSignature_query hlocation hc h
  obtain ⟨fields, credential, parts', own, hfields, hcredential, hparts', rfl, hjoin⟩ :=
    queryUrl_eq_ok hquery
  obtain rfl : parts = parts' := Except.ok.inj (hparts.symm.trans hparts')
  obtain ⟨joined, -, -, hjoined, -⟩ := canonicalRequest_eq_ok hcanonical
  subst hjoin
  -- whatever the signature is, it is written as one more pair behind the others
  rw [hrequest, signature]
  generalize Hash.hmac (signingKey c.secret s.scope) (Utf8.ofString text) = bs
  refine ⟨fields, credential, Hex.text bs, ?_⟩
  have hne : Url.Query.firstValues (Url.Query.read parts.query) ++
      s.authParameters c credential (signedNames fields) ≠ [] := by
    simp [Signer.authParameters]
  generalize Url.Query.firstValues (Url.Query.read parts.query) ++
    s.authParameters c credential (signedNames fields) = pairs at hne hjoined ⊢
  obtain ⟨hplain, hkept⟩ := Verification.plain_write (pairs ++ [("X-Amz-Signature", Hex.text bs)])
  rw [← Verification.write_signature hne] at hplain hkept
  obtain ⟨hsame, hfragment, hsplit⟩ := Url.split_join_more hparts (Url.Query.write_ne_empty hne)
    hplain hkept hjoined
  have hplace := Url.samePlace_iff hparts (Url.Query.write_ne_empty hne) hjoined
  refine ⟨_, hfields, hcredential, hsplit, ?_, fun hnone => ?_, fun hsome => ?_⟩
  · rw [← hplace]
    split <;> exact Iff.rfl
  · rw [if_pos hnone]
    refine ⟨hfragment.trans hnone, ?_⟩
    show Url.Query.read (Url.Query.write pairs ++ _) = _
    rw [Verification.write_signature hne, Url.Query.read_write (by simp)]
  · rw [if_neg hsome]
    refine ⟨rfl, ?_⟩
    show Url.Query.read joined.query = _
    rw [hsame, Url.Query.read_write hne]

/-- The parameters of a URL that a signature was put into, but for the signature, are those that the
URL had and those that the signer adds. -/
theorem parameters_addSignature (hlocation : s.location = .query) (hc : s.credentials = some c)
    (hparts : Url.split r.url = .ok parts) (h : (s.addSignature r).failure = none)
    (hlink : m.url = (s.addSignature r).request.url) :
    ∃ fields credential, fieldsToSign (withoutFormType r) = .ok fields ∧
      s.scope.credential c.access = .ok credential ∧
      ∀ name, name ≠ "X-Amz-Signature" →
        m.parameters name =
          Url.Query.valuesOf name (Url.Query.firstValues (Url.Query.read parts.query)) ++
            Url.Query.valuesOf name (s.authParameters c credential (signedNames fields)) := by
  obtain ⟨fields, credential, signature, q, hfields, hcredential, hq, hsigned⟩ :=
    split_addSignature hlocation hc hparts h
  refine ⟨fields, credential, hfields, hcredential, fun name hname => ?_⟩
  rw [Presigned.parameters, hlink, hq]
  dsimp only
  rw [hsigned.valuesOf hname, Url.Query.valuesOf_append]

end Signing

end UrlSigning
