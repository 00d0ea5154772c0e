import Mathlib.Data.List.Forall2
import UrlSigning.Proofs.Http.Headers
import UrlSigning.Proofs.Presigning.Signer

/-!
# The order and the case of headers

A signature in the query covers the headers in lower case and sorted, so neither the order in which
they come nor the case of their names shows in it. What is presigned is the same, and so is the
failure if there is one; only the headers that are handed over stand as the caller wrote them.
-/

namespace UrlSigning

open Http Signing Verification

namespace Signing

/-! ## Names in a row -/

theorem nodup_eraseDups {α : Type} [BEq α] [LawfulBEq α] (l : List α) : l.eraseDups.Nodup := by
  match l with
  | [] => exact List.nodup_nil
  | a :: rest =>
      rw [List.eraseDups_cons, List.nodup_cons, List.mem_eraseDups]
      exact ⟨by simp, nodup_eraseDups _⟩
termination_by l.length
decreasing_by
  exact Nat.lt_succ_of_le (List.length_filter_le _ _)

theorem nodup_sortedOnce (names : List String) : (sortedOnce names).Nodup :=
  (List.mergeSort_perm _ _).nodup_iff.mpr (nodup_eraseDups names)

theorem pairwise_sortedOnce (names : List String) : (sortedOnce names).Pairwise (· ≤ ·) := by
  refine (List.pairwise_mergeSort ?_ ?_ names.eraseDups).imp fun h => of_decide_eq_true h
  · intro a b c hab hbc
    exact decide_eq_true (String.le_trans (of_decide_eq_true hab) (of_decide_eq_true hbc))
  · intro a b
    simpa using String.le_total a b

/-- The order in which names are told does not depend on the order in which they are given. -/
theorem sortedOnce_congr {names names' : List String} (h : ∀ name, name ∈ names ↔ name ∈ names') :
    sortedOnce names = sortedOnce names' := by
  refine List.Perm.eq_of_pairwise (fun _ _ _ _ => String.le_antisymm) (pairwise_sortedOnce names)
    (pairwise_sortedOnce names') ?_
  refine (List.perm_ext_iff_of_nodup (nodup_sortedOnce names) (nodup_sortedOnce names')).mpr ?_
  intro name
  rw [mem_sortedOnce, mem_sortedOnce, h]

/-! ## Signed fields -/

/-- The same signed fields in some order, no two of which have the same name. -/
structure SignedAlike (fields fields' : List SignedField) : Prop where
  perm : fields.Perm fields'
  apart : fields.Pairwise fun f g => ¬ Headers.sameName f.1 g.1 = true

namespace SignedAlike

variable {fields fields' : List SignedField}

theorem signedNames_eq (h : SignedAlike fields fields') :
    signedNames fields = signedNames fields' := by
  rw [signedNames, signedNames, sortedOnce_congr fun name => (h.perm.map _).mem_iff]

theorem headerLine_eq (h : SignedAlike fields fields') (name : String) :
    headerLine fields name = headerLine fields' name := by
  rw [headerLine, headerLine, Headers.eq_of_perm_of_length_le (h.perm.filter _)
    (Headers.length_filter_sameName_le h.apart name)]

theorem headerLines_eq (h : SignedAlike fields fields') :
    headerLines fields = headerLines fields' := by
  rw [headerLines, headerLines, sortedOnce_congr fun name => (h.perm.map _).mem_iff,
    funext h.headerLine_eq]

end SignedAlike

/-! ## Signing -/

section

variable {r : Request} {h' : Headers}

theorem ownFields_eq (r : Request) :
    ownFields r = (r.headers.lowered.map fun f => (f.1, some f.2)).filter
      fun f => !unsignedHeaders.contains f.1 := by
  rw [ownFields, Headers.lowered, List.map_map]
  rfl

theorem signedAlike_ownFields (hd : r.headers.NamesDistinct)
    (hp : r.headers.lowered.Perm h'.lowered) :
    SignedAlike (ownFields r) (ownFields { r with headers := h' }) := by
  refine ⟨?_, List.Pairwise.filter _ (List.pairwise_map.mpr (hd.imp ?_))⟩
  · rw [ownFields_eq, ownFields_eq]
    exact (hp.map _).filter _
  · intro f g hne
    rwa [Headers.sameName, Text.lower_lower, Text.lower_lower]

/-- Who asks for the signed fields and does not see their order cannot tell the requests apart. -/
theorem fieldsToSign_bind_eq {α : Type} {use : List SignedField → Except Failure α}
    (hd : r.headers.NamesDistinct) (hp : r.headers.lowered.Perm h'.lowered)
    (huse : ∀ fields fields', SignedAlike fields fields' → use fields' = use fields) :
    (fieldsToSign { r with headers := h' } >>= use) = (fieldsToSign r >>= use) := by
  have hown := signedAlike_ownFields hd hp
  have heq (r : Request) : fieldsToSign r =
    if (ownFields r).any fun f => Headers.sameName f.1 "host" then .ok (ownFields r)
    else (Url.host? r.url).mapError .url >>= fun host => .ok (ownFields r ++ [("host", host)]) :=
    rfl
  rw [heq, heq, ← hown.perm.any_eq]
  by_cases hhost : (ownFields r).any (fun f => Headers.sameName f.1 "host") = true
  · rw [if_pos hhost, if_pos hhost]
    exact huse _ _ hown
  · rw [if_neg hhost, if_neg hhost, bind_assoc, bind_assoc]
    refine bind_congr fun host => huse _ _ ⟨hown.perm.append_right _, ?_⟩
    -- the host that is added is the only one
    refine List.pairwise_append.mpr ⟨hown.apart, List.pairwise_singleton _ _, ?_⟩
    intro f hf g hg hsame
    rw [List.mem_singleton.mp hg] at hsame
    exact hhost (List.any_eq_true.mpr ⟨f, hf, hsame⟩)

theorem canonicalRequest_respelled {form : CanonicalForm} (hd : r.headers.NamesDistinct)
    (hp : r.headers.lowered.Perm h'.lowered)
    (hpayload : form.payloadHash { r with headers := h' } = form.payloadHash r) :
    canonicalRequest form { r with headers := h' } = canonicalRequest form r := by
  unfold canonicalRequest
  rw [hpayload, ← hd.get?_of_perm hp]
  refine bind_congr fun parts => fieldsToSign_bind_eq hd hp fun fields fields' halike => ?_
  rw [halike.headerLines_eq, halike.signedNames_eq]

theorem queryUrl_respelled (s : Signer) (c : Credentials) (hd : r.headers.NamesDistinct)
    (hp : r.headers.lowered.Perm h'.lowered) :
    s.queryUrl c { r with headers := h' } = s.queryUrl c r := by
  refine fieldsToSign_bind_eq hd hp fun fields fields' halike => ?_
  rw [halike.signedNames_eq]

/-- A prepared request with other headers is signed in the query as the request is. -/
theorem signPrepared_respelled {s : Signer} (hlocation : s.location = .query) (c : Credentials)
    (hd : r.headers.NamesDistinct) (hp : r.headers.lowered.Perm h'.lowered) :
    (s.signPrepared c { r with headers := h' }) =
      { s.signPrepared c r with
        request := { (s.signPrepared c r).request with headers := h' } } := by
  unfold Signer.signPrepared
  rw [canonicalRequest_respelled hd hp rfl]
  rcases canonicalRequest s.form r with e | canonical
  · rfl
  dsimp only
  rcases stringToSign s.stamp s.scope canonical with e | text
  · rfl
  simp only [Signer.inject, hlocation]
  rfl

theorem dropFormType_perm {h h' : Headers} (hd : h.NamesDistinct)
    (hp : h.lowered.Perm h'.lowered) :
    (Signer.dropFormType h).NamesDistinct ∧
      (Signer.dropFormType h).lowered.Perm (Signer.dropFormType h').lowered := by
  unfold Signer.dropFormType
  rw [← hd.get?_of_perm hp]
  split
  · refine ⟨hd.erase _, ?_⟩
    rw [Headers.lowered_erase, Headers.lowered_erase]
    exact hp.filter _
  · exact ⟨hd, hp⟩

end

end Signing

namespace Pipeline

section

variable {s : Signer} {r : Request} {h' : Headers}

/-- Adding a signature in the query sees neither the order nor the case of the headers. -/
theorem resultOf_addSignature_respelled (hlocation : s.location = .query)
    (hd : r.headers.NamesDistinct) (hp : r.headers.lowered.Perm h'.lowered) :
    resultOf (s.addSignature { r with headers := h' }) =
      (resultOf (s.addSignature r)).map fun q =>
        { q with headers := Signer.dropFormType h' } := by
  obtain ⟨hd, hp⟩ := dropFormType_perm hd hp
  rcases hc : s.credentials with _ | c
  · rw [Signer.addSignature, Signer.addSignature, hc]
    rfl
  have hurl : s.queryUrl c (withoutFormType { r with headers := h' }) =
      s.queryUrl c (withoutFormType r) :=
    queryUrl_respelled (r := withoutFormType r) s c hd hp
  rcases h : s.queryUrl c (withoutFormType r) with e | url <;> rw [h] at hurl
  · rw [resultOf, resultOf, failure_addSignature_of_queryUrl hlocation hc h,
      failure_addSignature_of_queryUrl hlocation hc hurl]
    rfl
  · have hsigned : s.signPrepared c { withoutFormType { r with headers := h' } with url := url } =
        _ :=
      signPrepared_respelled (r := { withoutFormType r with url := url }) hlocation c hd hp
    rw [addSignature_of_queryUrl hlocation hc h, addSignature_of_queryUrl hlocation hc hurl,
      hsigned, resultOf, resultOf]
    dsimp only
    cases (s.signPrepared c { withoutFormType r with url := url }).failure <;> rfl

theorem resultOf_sign_respelled {config : Config} (hlocation : config.options.location = .query)
    (credentials : Option Credentials) (now : DateTime) (hd : r.headers.NamesDistinct)
    (hp : r.headers.lowered.Perm h'.lowered) :
    resultOf (sign config credentials now { r with headers := h' }) =
      (resultOf (sign config credentials now r)).map fun q =>
        { q with headers := Signer.dropFormType h' } := by
  rcases credentials with _ | c
  · rfl
  unfold sign
  dsimp only
  rcases hs : Signer.ofConfig config c now with e | s
  · rfl
  · exact resultOf_addSignature_respelled ((of_ofConfig hs).2.trans hlocation) hd hp

end

theorem serialize_with_headers (o : Operation) (headers : Entries String String) :
    ({ o with headers := headers } : Operation).serialize ⟨true, true⟩ =
      { o.serialize ⟨true, true⟩ with headers := ⟨headers⟩ } := by
  unfold Operation.serialize
  simp

/-- The headers of a presigned request are those of the signed one. -/
theorem bind_presignedOf_with_headers (window : Window) (x : Except Failure Request) (h : Headers) :
    (x.map fun q => { q with headers := h }).bind (presignedOf window) =
      (x.bind (presignedOf window)).map fun m =>
        { m with headers := Entries.ofPairs h.fields } := by
  rcases x with e | r
  · rfl
  · show presignedOf window _ = (presignedOf window r).map _
    unfold presignedOf
    rcases (window.finish).mapError Failure.time <;> rfl

/-- Neither the order nor the case of headers matters for what is presigned: if their names are
distinct without regard to case, then with the same headers in another order and with letters of
their names in the other case the same is presigned, with the same URL, or the same failure is told.
The headers that are handed over are then those of the other operation. -/
theorem presigned_of_respelled {o : Operation} {headers : Entries String String}
    (hdistinct : Headers.NamesDistinct ⟨o.headers⟩)
    (hrespelled : Headers.Respelled ⟨o.headers⟩ ⟨headers⟩) (w w' : Surroundings)
    (credentials : Option Credentials) (region : Json) (service : String) (window : Window)
    (payload : Option Payload) :
    (presign w' { o with headers := headers } credentials region service window payload
        []).result =
      (presign w o credentials region service window payload []).result.map fun m =>
        { m with headers := Entries.ofPairs (Signer.dropFormType ⟨headers⟩).fields } := by
  have hlocation : (presigned window (payload.getD .unsigned)
    (Plugin.setupConfig region service none)).options.location = .query := rfl
  have hfields : (o.serialize ⟨true, true⟩).headers = ⟨o.headers⟩ :=
    congrArg Headers.mk (fields_serialize_of_omitted o)
  rw [result_presign_alone, result_presign_alone, serialize_with_headers,
    resultOf_sign_respelled hlocation credentials _ (hfields ▸ hdistinct)
      (hfields ▸ hrespelled.lowered_perm)]
  exact bind_presignedOf_with_headers window _ _

/-- A reading with two headers, in the order and in the case that is given. -/
def Sample.readingWith (headers : Entries String String) : Operation :=
  { Sample.reading "/a.txt" with headers := headers }

theorem presigned_of_respelled_pair :
    Headers.NamesDistinct ⟨[("X-Trace", "1"), ("Range", "bytes=0-9")]⟩ ∧
    Headers.Respelled ⟨[("X-Trace", "1"), ("Range", "bytes=0-9")]⟩
      ⟨[("RANGE", "bytes=0-9"), ("x-trace", "1")]⟩ ∧
    ∃ m m', (presign Sample.surroundings
        (Sample.readingWith [("X-Trace", "1"), ("Range", "bytes=0-9")]) (some Sample.keys)
        "us-east-1" "s3" Sample.hour none []).result = .ok m ∧
      (presign Sample.surroundings
        (Sample.readingWith [("RANGE", "bytes=0-9"), ("x-trace", "1")]) (some Sample.keys)
        "us-east-1" "s3" Sample.hour none []).result = .ok m' ∧ m'.url = m.url := by
  have hdistinct : Headers.NamesDistinct ⟨[("X-Trace", "1"), ("Range", "bytes=0-9")]⟩ := by decide
  have hrespelled : Headers.Respelled ⟨[("X-Trace", "1"), ("Range", "bytes=0-9")]⟩
      ⟨[("RANGE", "bytes=0-9"), ("x-trace", "1")]⟩ :=
    ⟨_, List.Perm.swap _ _ [], .cons (by decide) (.cons (by decide) .nil)⟩
  obtain ⟨parts, hurl, hparts⟩ := split_reading "/a.txt" fun c hc => by cases hc; rfl
  have hpresigned : ∃ m, (presign Sample.surroundings
      (Sample.readingWith [("X-Trace", "1"), ("Range", "bytes=0-9")]) (some Sample.keys)
      "us-east-1" "s3" Sample.hour none []).result = .ok m :=
    exists_presign "s3" none ⟨_, rfl⟩ ⟨_, rfl⟩ rfl rfl rfl hurl hparts
  obtain ⟨m, hm⟩ := hpresigned
  have hsame := presigned_of_respelled
    (o := Sample.readingWith [("X-Trace", "1"), ("Range", "bytes=0-9")]) hdistinct hrespelled
    Sample.surroundings Sample.surroundings (some Sample.keys) "us-east-1" "s3" Sample.hour none
  rw [hm] at hsame
  exact ⟨hdistinct, hrespelled, m, _, hm, hsame, rfl⟩

end Pipeline

end UrlSigning
