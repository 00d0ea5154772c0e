import UrlSigning.Proofs.Presigning.Signer

/-!
# The query of a presigned URL

What presigning makes of the query of a URL. The first value of each name is kept, in order, and the
parameters of the signature follow; a second value of a name is lost. The signature itself goes to
the end of the URL as it is written, which is the end of the query only if there is no fragment.
-/

namespace UrlSigning.Pipeline

open Signing

/-! ## Parameters of the signature -/

/-- The names of the parameters of a signature, in order, with a session token or without one. -/
def authNames (token : Bool) : List String :=
  ["X-Amz-Algorithm", "X-Amz-Credential", "X-Amz-Date", "X-Amz-Expires", "X-Amz-SignedHeaders"] ++
    (if token then ["X-Amz-Security-Token"] else []) ++ ["X-Amz-Signature"]

theorem nodup_authNames (token : Bool) : (authNames token).Nodup := by
  cases token <;> decide

theorem isReserved_of_mem_authNames : ∀ token, ∀ name ∈ authNames token,
    Verification.IsReserved name := by
  decide

/-- The parameters of a signer, and the signature. -/
def authPairs (s : Signer) (c : Credentials) (credential names signature : String) :
    List (String × String) :=
  s.authParameters c credential names ++ [("X-Amz-Signature", signature)]

section

variable {s : Signer} {c : Credentials} {credential names signature : String}

theorem keys_authPairs :
    Entries.keys (authPairs s c credential names signature) = authNames c.token.isSome := by
  rw [authPairs, Signer.authParameters, authNames]
  cases c.token <;> rfl

/-- The parameters of a signer hold no signature. -/
theorem valuesOf_authParameters :
    Url.Query.valuesOf "X-Amz-Signature" (s.authParameters c credential names) = [] := by
  refine Url.Query.valuesOf_eq_nil fun hmem => ?_
  obtain ⟨p, hp, hname⟩ := List.mem_map.mp hmem
  exact Verification.ne_signature_of_mem hp hname

/-- Behind parameters without reserved names, each parameter of the signature has one value. -/
theorem valuesOf_authPairs {own : List (String × String)}
    (hown : ∀ p ∈ own, ¬Verification.IsReserved p.1) {p : String × String}
    (hp : p ∈ authPairs s c credential names signature) :
    Url.Query.valuesOf p.1 (own ++ authPairs s c credential names signature) = [p.2] := by
  have hname : p.1 ∈ authNames c.token.isSome := by
    rw [← keys_authPairs]
    exact List.mem_map_of_mem hp
  have hnone : p.1 ∉ Entries.keys own := by
    intro hmem
    obtain ⟨q, hq, hsame⟩ := List.mem_map.mp hmem
    exact hown q hq (hsame ▸ isReserved_of_mem_authNames _ _ hname)
  have hdistinct : (Entries.keys (authPairs s c credential names signature)).Nodup := by
    rw [keys_authPairs]
    exact nodup_authNames _
  rw [Url.Query.valuesOf_append, Url.Query.valuesOf_eq_nil hnone, List.nil_append]
  exact Url.Query.valuesOf_of_nodup hdistinct hp

end

section

variable {w : Surroundings} {o : Operation} {credentials : Option Credentials} {region : Json}
  {service : String} {window : Window} {payload : Option Payload} {m : Presigned}
  {parts : Url.Parts}

/-- Presigning a URL without a fragment and without reserved names keeps the first value of each
name, in order, and puts the parameters of the signature behind them, each of them once, the
signature last. All pairs are kept just when no name comes twice. The scheme, the authority and the
path stay as they are just when they are found again where they are written, as those of every URL
with an authority are. -/
theorem presigned_keeps_first (hurl : Url.split o.url = .ok parts) (hfragment : parts.fragment = "")
    (hown : ∀ p ∈ Url.Query.read parts.query, ¬Verification.IsReserved p.1)
    (h : (presign w o credentials region service window payload []).result = .ok m) :
    ∃ c q auth, credentials = some c ∧ Url.split m.url = .ok q ∧ q.fragment = "" ∧
      Url.Query.read q.query = Url.Query.firstValues (Url.Query.read parts.query) ++ auth ∧
      Entries.keys auth = authNames c.token.isSome ∧
      (∀ p ∈ auth, Url.Query.valuesOf p.1 (Url.Query.read q.query) = [p.2]) ∧
      (Url.Query.read q.query = Url.Query.read parts.query ++ auth ↔
        (Entries.keys (Url.Query.read parts.query)).Nodup) ∧
      (parts.SamePlace q ↔ parts.KeepsPlace) := by
  obtain ⟨c, s, hc, hs⟩ := exists_isPresignedBy h
  obtain ⟨credential, names, signature, q, hq, hgives⟩ := hs.split hurl
  obtain ⟨hempty, hread⟩ := hgives.atQuery hfragment
  have hread : Url.Query.read q.query = Url.Query.firstValues (Url.Query.read parts.query) ++
      authPairs s c credential names signature := by
    rw [hread, List.append_assoc]
    rfl
  refine ⟨c, q, authPairs s c credential names signature, hc, hq, hempty, hread, keys_authPairs,
    fun p hp => ?_, ?_, hgives.place⟩
  · rw [hread]
    exact valuesOf_authPairs (fun p hp => hown p (Url.Query.mem_of_mem_firstValues hp)) hp
  · rw [hread, ← Url.Query.firstValues_eq_self_iff]
    exact ⟨List.append_cancel_right, fun hsame => by rw [hsame]⟩

theorem presigned_keeps_first_read :
    ∃ m q auth, (presign Sample.surroundings (Sample.reading "/a.txt?tag=a%20b&part=")
        (some Sample.keys) "us-east-1" "s3" Sample.hour none []).result = .ok m ∧
      Url.split m.url = .ok q ∧
      Url.Query.read q.query = [("tag", "a b"), ("part", "")] ++ auth ∧
      Entries.keys auth = authNames false := by
  have hurl : Url.split (Sample.reading "/a.txt?tag=a%20b&part=").url =
      .ok ⟨"https", "bucket.example.com", "/a.txt", "tag=a%20b&part=", ""⟩ := by
    decide
  have hwritten : Url.Query.write [("tag", "a b"), ("part", "")] = "tag=a%20b&part=" := by
    decide
  have hread : Url.Query.read "tag=a%20b&part=" = [("tag", "a b"), ("part", "")] := by
    rw [← hwritten, Url.Query.read_write (by decide)]
  obtain ⟨m, hm⟩ := exists_presign_hour "/a.txt?tag=a%20b&part=" fun c hc => by cases hc; rfl
  obtain ⟨c, q, auth, hc, hq, -, -, hnames, -, hall, -⟩ := presigned_keeps_first hurl rfl
    (by rw [hread]; decide) hm
  cases hc
  have hsame := hall.mpr (by rw [hread]; decide)
  rw [hread] at hsame
  exact ⟨m, q, auth, hm, hq, hsame, hnames⟩

/-- The second value of a name is lost. -/
theorem presigned_loses_second :
    ∃ m q, (presign Sample.surroundings (Sample.reading "/a.txt?tag=a&tag=b") (some Sample.keys)
        "us-east-1" "s3" Sample.hour none []).result = .ok m ∧
      Url.split m.url = .ok q ∧
      Url.Query.valuesOf "tag" (Url.Query.read "tag=a&tag=b") = ["a", "b"] ∧
      Url.Query.valuesOf "tag" (Url.Query.read q.query) = ["a"] := by
  have hurl : Url.split (Sample.reading "/a.txt?tag=a&tag=b").url =
      .ok ⟨"https", "bucket.example.com", "/a.txt", "tag=a&tag=b", ""⟩ := by
    decide
  have hwritten : Url.Query.write [("tag", "a"), ("tag", "b")] = "tag=a&tag=b" := by
    decide
  have htags : Url.Query.read "tag=a&tag=b" = [("tag", "a"), ("tag", "b")] := by
    rw [← hwritten, Url.Query.read_write (by decide)]
  obtain ⟨m, hm⟩ := exists_presign_hour "/a.txt?tag=a&tag=b" fun c hc => by cases hc; rfl
  obtain ⟨c, s, -, hs⟩ := exists_isPresignedBy hm
  obtain ⟨credential, names, signature, q, hq, hgives⟩ := hs.split hurl
  obtain ⟨-, hread⟩ := hgives.atQuery rfl
  have hauth : "tag" ∉ Entries.keys (authPairs s c credential names signature) := by
    rw [keys_authPairs]
    cases c.token.isSome <;> decide
  refine ⟨m, q, hm, hq, by rw [htags]; decide, ?_⟩
  rw [hread, htags, List.append_assoc, Url.Query.valuesOf_append]
  change _ ++ Url.Query.valuesOf "tag" (authPairs s c credential names signature) = _
  rw [Url.Query.valuesOf_eq_nil hauth]
  decide

/-- The signature is a parameter of the query, and the last one, if the URL of the operation has no
fragment. It is put behind a fragment as it is behind a query, so with one it is no parameter, and
the fragment is another one. -/
theorem presigned_at_query
    (h : (presign w o credentials region service window payload []).result = .ok m) :
    ∃ parts q signature, Url.split o.url = .ok parts ∧ Url.split m.url = .ok q ∧
      (parts.fragment = "" → q.fragment = "" ∧
        (Url.Query.read q.query).getLast? = some ("X-Amz-Signature", signature)) ∧
      (parts.fragment ≠ "" → q.fragment = parts.fragment ++ s!"&X-Amz-Signature={signature}" ∧
        Url.Query.valuesOf "X-Amz-Signature" (Url.Query.read q.query) =
          Url.Query.valuesOf "X-Amz-Signature"
            (Url.Query.firstValues (Url.Query.read parts.query))) ∧
      ((Url.Query.valuesOf "X-Amz-Signature" (Url.Query.read q.query) ≠ [] ∧
          q.fragment = parts.fragment) ↔ parts.fragment = "") := by
  obtain ⟨c, s, -, hs⟩ := exists_isPresignedBy h
  obtain ⟨parts, hurl⟩ := hs.exists_parts
  obtain ⟨credential, names, signature, q, hq, hgives⟩ := hs.split hurl
  refine ⟨parts, q, signature, hurl, hq, fun hnone => ?_, fun hsome => ?_, ?_⟩
  · obtain ⟨hempty, hread⟩ := hgives.atQuery hnone
    rw [hread, List.getLast?_concat]
    exact ⟨hempty, rfl⟩
  · obtain ⟨hlonger, hread⟩ := hgives.atFragment hsome
    rw [hread, Url.Query.valuesOf_append, valuesOf_authParameters, List.append_nil]
    exact ⟨hlonger, rfl⟩
  · constructor
    · rintro ⟨-, hsame⟩
      by_contra hsome
      exact hgives.fragment_ne hsome hsame
    · intro hnone
      obtain ⟨hempty, hread⟩ := hgives.atQuery hnone
      refine ⟨?_, hempty.trans hnone.symm⟩
      rw [hread, Url.Query.valuesOf_append]
      exact List.append_ne_nil_of_right_ne_nil _ (by simp [Url.Query.valuesOf])

theorem presigned_at_query_read :
    ∃ m q signature, (presign Sample.surroundings (Sample.reading "/a.txt") (some Sample.keys)
        "us-east-1" "s3" Sample.hour none []).result = .ok m ∧
      Url.split m.url = .ok q ∧ q.fragment = "" ∧
      (Url.Query.read q.query).getLast? = some ("X-Amz-Signature", signature) := by
  obtain ⟨m, hm⟩ := exists_presign_hour "/a.txt" fun c hc => by cases hc; rfl
  obtain ⟨parts, q, signature, hurl, hq, hquery, -⟩ := presigned_at_query hm
  have hparts : Url.split (Sample.reading "/a.txt").url =
      .ok ⟨"https", "bucket.example.com", "/a.txt", "", ""⟩ := by
    decide
  obtain rfl := Except.ok.inj (hurl.symm.trans hparts)
  exact ⟨m, q, signature, hm, hq, hquery rfl⟩

/-- With a fragment, there is no signature in the query, and another fragment. -/
theorem presigned_at_fragment :
    ∃ m q, (presign Sample.surroundings (Sample.reading "/a.txt#top") (some Sample.keys)
        "us-east-1" "s3" Sample.hour none []).result = .ok m ∧
      Url.split m.url = .ok q ∧
      Url.Query.valuesOf "X-Amz-Signature" (Url.Query.read q.query) = [] ∧ q.fragment ≠ "top" := by
  have hurl : Url.split (Sample.reading "/a.txt#top").url =
      .ok ⟨"https", "bucket.example.com", "/a.txt", "", "top"⟩ := by
    decide
  obtain ⟨m, hm⟩ := exists_presign_hour "/a.txt#top" fun c hc => by cases hc; rfl
  obtain ⟨c, s, -, hs⟩ := exists_isPresignedBy hm
  obtain ⟨credential, names, signature, q, hq, hgives⟩ := hs.split hurl
  obtain ⟨-, hread⟩ := hgives.atFragment (by decide)
  refine ⟨m, q, hm, hq, ?_, hgives.fragment_ne (by decide)⟩
  rw [hread, Url.Query.valuesOf_append, valuesOf_authParameters]
  decide

end

end UrlSigning.Pipeline
