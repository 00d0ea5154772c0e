import Mathlib.Data.List.TakeWhile
import UrlSigning.Proofs.Presigning.Signer
import UrlSigning.Proofs.Provider.ObjectUrl
import UrlSigning.Proofs.Run.Turns
import UrlSigning.Sending.Outgoing

/-!
# Sending what was presigned

A request that a run presigned for a provider can be sent unless its URL is too long or one of its
headers is not written in ASCII. The query goes over the wire as it was signed. The path does so
just when it has no segments of points: the store of objects has such segments signed as they stand,
while a client takes them out, so that another object is asked for than the one that was signed.
-/

namespace UrlSigning.Outgoing

open Text Signing Pipeline

/-! ## The URL of a presigned request -/

theorem isQueryChar_of_isWritten {c : Char} (h : Url.Query.isWritten c = true) :
    Url.Target.isQueryChar c = true := by
  have hascii : c.toNat < 128 := by
    simp only [Url.Query.isWritten, Bool.or_eq_true, beq_iff_eq] at h
    rcases h with ((rfl | rfl) | rfl) | h
    · decide
    · decide
    · decide
    · exact Percent.toNat_lt_of_isUnreserved h
  exact forall_ascii
    (P := fun d => Url.Query.isWritten d = true → Url.Target.isQueryChar d = true)
    (by decide) hascii h

/-- A URL of the web with a written query that is given a signature has a longer written query. -/
theorem join_signature {parts : Url.Parts} (hscheme : Url.IsWeb parts.scheme)
    (hfragment : parts.fragment = "") {pairs : List (String × String)} (hne : pairs ≠ [])
    (bs : Bytes) :
    Url.join { parts with query := Url.Query.write pairs } ++ s!"&X-Amz-Signature={Hex.text bs}" =
      Url.join { parts with
        query := Url.Query.write (pairs ++ [("X-Amz-Signature", Hex.text bs)]) } := by
  have hmore : pairs ++ [("X-Amz-Signature", Hex.text bs)] ≠ [] := by simp
  rw [Url.join_web hscheme hfragment (Url.Query.write_ne_empty hne),
    Url.join_web hscheme hfragment (Url.Query.write_ne_empty hmore), String.append_assoc,
    Verification.write_signature hne]

/-- A signature in the query gives the URL of a request a query that was written. -/
theorem url_of_addSignature {s : Signer} {c : Credentials} {r : Http.Request} {parts : Url.Parts}
    (hparts : parts.IsPlaced) (hurl : r.url = Url.join { parts with query := "" })
    (hlocation : s.location = .query) (hc : s.credentials = some c)
    (h : (s.addSignature r).failure = none) :
    ∃ pairs, pairs ≠ [] ∧
      (s.addSignature r).request.url = Url.join { parts with query := Url.Query.write pairs } ∧
      Url.split (s.addSignature r).request.url =
        .ok { parts with query := Url.Query.write pairs } := by
  obtain ⟨url, canonical, text, hquery, hcanonical, -, hrequest⟩ :=
    addSignature_query hlocation hc h
  obtain ⟨fields, credential, own, more, -, -, hown, -, hjoin⟩ := queryUrl_eq_ok hquery
  -- the signer reads the parts of the URL, and then those of the URL with its parameters
  have hsplit : Url.split (Url.join { parts with query := "" }) = .ok own := hurl ▸ hown
  obtain rfl := hparts.split_join (by simp) (by simp) hsplit
  obtain ⟨joined, -, -, hjoined, -⟩ := canonicalRequest_eq_ok hcanonical
  rw [hjoin] at hjoined
  have hne : more ++ s.authParameters c credential (signedNames fields) ≠ [] := by
    simp [Signer.authParameters]
  -- whatever the signature is, it makes the query longer by one pair
  rw [signature] at hrequest
  generalize Hash.hmac (signingKey c.secret s.scope) (Utf8.ofString text) = bs at hrequest
  obtain ⟨-, hsigned, -⟩ :=
    Verification.split_signed hsplit hparts.fragment hne bs hjoined
  have hlink : (s.addSignature r).request.url = Url.join { parts with
      query := Url.Query.write (more ++ s.authParameters c credential (signedNames fields) ++
        [("X-Amz-Signature", Hex.text bs)]) } := by
    rw [hrequest, ← join_signature hparts.scheme hparts.fragment hne, hjoin]
  rw [join_signature hparts.scheme hparts.fragment hne] at hsigned
  obtain ⟨hquery, hkept⟩ := Verification.plain_write (more ++
    s.authParameters c credential (signedNames fields) ++ [("X-Amz-Signature", Hex.text bs)])
  refine ⟨_, by simp, hlink, ?_⟩
  rw [hlink, hsigned, hparts.split_join hquery hkept hsigned]

/-- The URL of a presigned request is that of the operation with a query that was written. -/
theorem url_of_presign {w : Surroundings} {o : Operation} {credentials : Option Credentials}
    {region : Json} {service : String} {window : Window} {payload : Option Payload}
    {m : Presigned} {parts : Url.Parts} (hparts : parts.IsPlaced)
    (hurl : o.url = Url.join { parts with query := "" })
    (h : (presign w o credentials region service window payload []).result = .ok m) :
    ∃ pairs, pairs ≠ [] ∧ m.url = Url.join { parts with query := Url.Query.write pairs } ∧
      Url.split m.url = .ok { parts with query := Url.Query.write pairs } := by
  obtain ⟨c, s, -, hs⟩ := exists_isPresignedBy h
  rw [hs.url]
  exact url_of_addSignature hparts hurl hs.location hs.credentials hs.signed

/-! ## Sending -/

theorem checkAscii_eq_ok {s : String} : Http.checkAscii s = .ok () ↔ IsAscii s := by
  have hascii : IsAscii s ↔ s.toList.dropWhile Http.isAscii = [] := by
    rw [List.dropWhile_eq_nil_iff]
    simp [IsAscii, Http.isAscii]
  rw [hascii]
  unfold Http.checkAscii
  dsimp only
  rcases hdrop : s.toList.dropWhile Http.isAscii with _ | ⟨c, cs⟩
  · exact ⟨fun _ => rfl, fun _ => rfl⟩
  · -- the first character that is left is not of ASCII
    have hc : Http.isAscii c = false := by
      simpa [hdrop] using List.head?_dropWhile_not Http.isAscii s.toList
    simp [hc]

theorem checkFields_eq_ok {fields : List (String × String)} :
    checkFields fields = .ok () ↔ ∀ f ∈ fields, IsAscii f.1 ∧ IsAscii f.2 := by
  induction fields with
  | nil => exact ⟨fun _ f hf => (List.not_mem_nil hf).elim, fun _ => rfl⟩
  | cons f fields ih =>
      have hcons : checkFields (f :: fields) =
          ((Http.checkAscii f.1 >>= fun _ => Http.checkAscii f.2) >>= fun _ =>
            checkFields fields) := rfl
      rw [hcons, bind_eq_ok, List.forall_mem_cons, ← ih, ← checkAscii_eq_ok, ← checkAscii_eq_ok]
      constructor
      · rintro ⟨_, hf, hfields⟩
        obtain ⟨_, hname, hvalue⟩ := bind_eq_ok.mp hf
        exact ⟨⟨hname, hvalue⟩, hfields⟩
      · rintro ⟨⟨hname, hvalue⟩, hfields⟩
        exact ⟨(), bind_eq_ok.mpr ⟨(), hname, hvalue⟩, hfields⟩

theorem ofPresigned_eq_ok {m : Presigned} {body : Bytes} {sent : Outgoing} :
    ofPresigned m body = .ok sent ↔
      ∃ target, Url.Target.ofUrl m.url = .ok target ∧ checkFields m.headers = .ok () ∧
        sent = ⟨upper m.method, target,
          addFront (upper m.method) target (addLength ⟨m.headers⟩ body), body⟩ := by
  constructor
  · intro h
    obtain ⟨target, htarget, h⟩ := bind_eq_ok.mp h
    obtain ⟨_, hfields, h⟩ := bind_eq_ok.mp h
    cases h
    exact ⟨target, mapError_eq_ok.mp htarget, mapError_eq_ok.mp hfields, rfl⟩
  · rintro ⟨target, htarget, hfields, rfl⟩
    exact bind_eq_ok.mpr ⟨target, mapError_eq_ok.mpr htarget,
      bind_eq_ok.mpr ⟨(), mapError_eq_ok.mpr hfields, rfl⟩⟩

/-- What was presigned for a provider that can be reached has the URL of the object with a query
that was written. -/
theorem url_of_presignFor {w : Surroundings} {p : Provider} {base : Url.Parts} {plan : Run.Plan}
    {start : DateTime} {m : Presigned} (hp : p.IsReachable base)
    (h : (Run.presignFor w p plan start).result = .ok m) :
    ∃ pairs, pairs ≠ [] ∧
      m.url = Url.join { p.objectParts base plan.objectKey with query := Url.Query.write pairs } ∧
      Url.split m.url =
        .ok { p.objectParts base plan.objectKey with query := Url.Query.write pairs } := by
  obtain ⟨window, url, hurl, hpresign⟩ := Run.presignFor_eq_ok h
  obtain ⟨endpoint, hendpoint, hbase⟩ := hp.endpoint
  rw [Provider.objectUrl_eq hendpoint hbase] at hurl
  cases hurl
  exact url_of_presign (hp.isPlaced_objectParts plan.objectKey) rfl hpresign

/-- Where a client sends what was presigned for a provider that can be reached. -/
theorem ofUrl_of_presignFor {w : Surroundings} {p : Provider} {base : Url.Parts} {plan : Run.Plan}
    {start : DateTime} {m : Presigned} (hp : p.IsReachable base)
    (h : (Run.presignFor w p plan start).result = .ok m) :
    ∃ (parts : Url.Parts) (t : Url.Target), Url.split m.url = .ok parts ∧
      parts.path = p.objectPath base plan.objectKey ∧
      Url.Target.ofUrl m.url =
        if m.url.length ≤ Url.Target.longest then
          .ok { t with
            path := String.ofList (Url.Target.settle parts.path.toList)
            query := some parts.query }
        else .error .tooLong := by
  obtain ⟨t, ht⟩ := hp.place
  obtain ⟨pairs, hne, hlink, hsplit⟩ := url_of_presignFor hp h
  refine ⟨_, t, hsplit, rfl, ?_⟩
  rw [hlink]
  exact (hp.isPlaced_objectParts plan.objectKey).ofUrl_join (Url.Query.write_ne_empty hne)
    (hp.isPathChar_objectPath plan.objectKey)
    (fun c hc => isQueryChar_of_isWritten (Url.Query.isWritten_of_mem hc)) ht

/-- The URL is not too long for a client, and the headers are of ASCII. -/
def IsSendable (m : Presigned) : Prop :=
  m.url.length ≤ Url.Target.longest ∧ ∀ f ∈ m.headers, IsAscii f.1 ∧ IsAscii f.2

/-- The presigned request is sent with the body, and goes to the path and the query. -/
def SentTo (m : Presigned) (body : Bytes) (path query : String) : Prop :=
  ∃ sent, ofPresigned m body = .ok sent ∧ sent.target.path = path ∧
    sent.target.query = some query

theorem sentTo_iff {m : Presigned} {t : Url.Target} {parts : Url.Parts}
    (htarget : Url.Target.ofUrl m.url =
      if m.url.length ≤ Url.Target.longest then
        .ok { t with
          path := String.ofList (Url.Target.settle parts.path.toList)
          query := some parts.query }
      else .error .tooLong) (body : Bytes) (path query : String) :
    SentTo m body path query ↔ IsSendable m ∧
      String.ofList (Url.Target.settle parts.path.toList) = path ∧ parts.query = query := by
  constructor
  · rintro ⟨sent, hsent, hpath, hquery⟩
    obtain ⟨target, hofUrl, hfields, rfl⟩ := ofPresigned_eq_ok.mp hsent
    rw [htarget] at hofUrl
    split at hofUrl <;> cases hofUrl
    next hlength =>
      exact ⟨⟨hlength, checkFields_eq_ok.mp hfields⟩, hpath, Option.some.inj hquery⟩
  · rintro ⟨⟨hlength, hascii⟩, rfl, rfl⟩
    rw [if_pos hlength] at htarget
    exact ⟨_, ofPresigned_eq_ok.mpr ⟨_, htarget, checkFields_eq_ok.mpr hascii, rfl⟩, rfl, rfl⟩

/-- Whatever a run presigned for a provider that can be reached is sent to the query that was signed
and to the settled path, unless the URL is too long or a header is not of ASCII. So it is sent to
just the path and the query of its URL if and only if, besides, there are no segments of points in
the path. -/
theorem sent_as_signed {w : Surroundings} {clock : Clock} {providers : Entries String Provider}
    {plan : Run.Plan} {results : Run.Results} {key : String} {result : Run.Result} {m : Presigned}
    (body : Bytes)
    (hproviders : ∀ p, (key, p) ∈ providers → ∃ base, p.IsReachable base)
    (hrun : (Run.run w clock providers plan).result = .ok results)
    (hresult : (key, result) ∈ results) (hrequest : result.request = some m) :
    ∃ parts, Url.split m.url = .ok parts ∧
      (IsSendable m →
        SentTo m body (String.ofList (Url.Target.settle parts.path.toList)) parts.query) ∧
      (SentTo m body parts.path parts.query ↔
        IsSendable m ∧ Url.Target.IsSettled parts.path.toList) := by
  obtain ⟨p, hp, hpresign⟩ := Run.exists_presignFor hrun hresult hrequest
  obtain ⟨base, hbase⟩ := hproviders p hp
  obtain ⟨parts, t, hsplit, -, htarget⟩ := ofUrl_of_presignFor hbase hpresign
  have hsent := sentTo_iff htarget body
  refine ⟨parts, hsplit, fun hm => (hsent _ _).mpr ⟨hm, rfl, rfl⟩, ?_⟩
  rw [hsent, Url.Target.ofList_settle_eq_iff]
  exact and_congr_right fun _ => and_iff_left rfl

/-! ### A store, and what is presigned for it -/

def Sample.store : Provider where
  key := "main"
  name := .text "Main"
  endpoint := .text "https://s3.example.com"
  access := .text "AKIDEXAMPLE"
  secret := .text "wJalrXUtnFEMI"
  region := .text "us-east-1"
  bucket := .text "bucket"

def Sample.base : Url.Parts := ⟨"https", "s3.example.com", "", "", ""⟩

def Sample.planFor (objectKey : String) : Run.Plan where
  objectKey := objectKey
  expires := some Sample.hour.length
  start := some Sample.noon
  headers := [("Host", "s3.example.com")]

theorem isReachable_store : Sample.store.IsReachable Sample.base where
  endpoint := ⟨"https://s3.example.com", rfl, by decide +kernel⟩
  scheme := .inr rfl
  authority := by decide
  path := by simp [Sample.base]
  bucket := by
    have hall : ("bucket".toList.all fun c => Url.Target.isPathChar c && c != '/') = true := by
      decide +kernel
    intro c hc
    simpa using List.all_eq_true.mp hall c hc
  place := by
    have hok : (Url.Target.ofUrl "https://s3.example.com").isOk = true := by decide +kernel
    show ∃ t, Url.Target.ofUrl "https://s3.example.com" = .ok t
    cases h : Url.Target.ofUrl "https://s3.example.com" with
    | error e =>
        rw [h] at hok
        cases hok
    | ok t => exact ⟨t, rfl⟩

theorem isVerifiable_store (objectKey : String) :
    Verification.IsVerifiable (Sample.store.objectParts Sample.base objectKey)
      (Sample.planFor objectKey).headers where
  scheme := .inr rfl
  fragment := rfl
  query := by
    show ∀ p ∈ Url.Query.read "", ¬Verification.IsReserved p.1
    decide
  tokens := by
    intro f hf
    rw [List.mem_singleton.mp hf]
    exact ⟨by decide, List.all_eq_true.mp (by decide)⟩
  noHash := by
    intro f hf
    rw [List.mem_singleton.mp hf]
    decide +kernel

def Sample.operationOn (objectKey : String) : Operation where
  method := "GET"
  url := Url.join (Sample.store.objectParts Sample.base objectKey)
  headers := [("Host", "s3.example.com")]

theorem exists_presigned_store (objectKey : String) :
    ∃ m, (presign Sample.surroundings (Sample.operationOn objectKey) Sample.store.credentials
      "us-east-1" "s3" Sample.hour (some .unsigned) []).result = .ok m := by
  have hplaced := isReachable_store.isPlaced_objectParts objectKey
  have hbrackets : Url.checkBrackets "s3.example.com".toList = .ok () := by decide +kernel
  have hequivalents : Url.checkEquivalents "s3.example.com".toList = .ok () := by decide +kernel
  have hshown := hplaced.partsOf_eq_of_checks hbrackets hequivalents ""
  have hsplit : Url.split (Sample.operationOn objectKey).url =
      .ok (Sample.store.objectParts Sample.base objectKey) :=
    (congrArg Url.split hplaced.join_bare).trans
      ((Url.split_eq_partsOf_bare hplaced.scheme hplaced.startsNone_place).trans hshown)
  have hheaders : Signer.dropFormType ⟨[("Host", "s3.example.com")]⟩ =
      ⟨[("Host", "s3.example.com")]⟩ := by
    decide +kernel
  have hhost : ∃ f ∈ Verification.ownFields
      (withoutFormType ((Sample.operationOn objectKey).serialize ⟨true, true⟩)),
      Http.Headers.sameName f.1 "host" = true := by
    refine ⟨("host", some "s3.example.com"), ?_, by decide +kernel⟩
    unfold Verification.ownFields
    show _ ∈ ((Signer.dropFormType ⟨[("Host", "s3.example.com")]⟩).fields.map _).filter _
    rw [hheaders]
    decide +kernel
  exact Verification.exists_presigned_of_host (some .unsigned) hsplit
    (isVerifiable_store objectKey) hshown rfl hhost rfl

/-- Every object of the store can be presigned. -/
theorem exists_run_store (clock : Clock) (objectKey : String) :
    ∃ m, (Run.presignFor Sample.surroundings Sample.store (Sample.planFor objectKey)
        Sample.noon).result = .ok m ∧
      (Run.run Sample.surroundings clock [("main", Sample.store)]
          (Sample.planFor objectKey)).result =
        .ok [("main", ⟨"main", .text "Main", objectKey, .ok, some m, none⟩)] := by
  obtain ⟨m, hm⟩ := exists_presigned_store objectKey
  have hwindow : Run.windowFor Sample.store (Sample.planFor objectKey) Sample.noon =
      .ok Sample.hour := rfl
  have hbase : Url.split "https://s3.example.com" = .ok Sample.base := by decide +kernel
  have hoperation : Run.operationFor Sample.store (Sample.planFor objectKey) =
      .ok (Sample.operationOn objectKey) :=
    bind_eq_ok.mpr ⟨_, Provider.objectUrl_eq rfl hbase objectKey, rfl⟩
  have hpresigned : (Run.presignFor Sample.surroundings Sample.store (Sample.planFor objectKey)
      Sample.noon).result = .ok m := by
    unfold Run.presignFor
    rw [hwindow, hoperation]
    exact hm
  exact ⟨m, hpresigned, Run.result_run_of_presignFor "main" hpresigned⟩

theorem sent_as_signed_store :
    ∃ m, (Run.run Sample.surroundings .system [("main", Sample.store)]
        (Sample.planFor "docs/a.txt")).result =
          .ok [("main", ⟨"main", .text "Main", "docs/a.txt", .ok, some m, none⟩)] ∧
      ∃ parts, Url.split m.url = .ok parts ∧
        (IsSendable m →
          SentTo m [104, 105] (String.ofList (Url.Target.settle parts.path.toList)) parts.query) ∧
        (SentTo m [104, 105] parts.path parts.query ↔
          IsSendable m ∧ Url.Target.IsSettled parts.path.toList) := by
  obtain ⟨m, -, hrun⟩ := exists_run_store .system "docs/a.txt"
  have hproviders : ∀ p, ("main", p) ∈ [("main", Sample.store)] → ∃ base, p.IsReachable base := by
    intro p hp
    cases List.mem_singleton.mp hp
    exact ⟨Sample.base, isReachable_store⟩
  exact ⟨m, hrun, sent_as_signed [104, 105] hproviders hrun List.mem_cons_self rfl⟩

/-- A request that is presigned for an object with two points in its key is never sent to the path
that was signed. -/
theorem sent_elsewhere_points :
    ∃ m, (Run.run Sample.surroundings .system [("main", Sample.store)]
        (Sample.planFor "docs/../a.txt")).result =
          .ok [("main", ⟨"main", .text "Main", "docs/../a.txt", .ok, some m, none⟩)] ∧
      ∀ parts, Url.split m.url = .ok parts → ¬SentTo m [] parts.path parts.query := by
  obtain ⟨m, hpresign, hrun⟩ := exists_run_store .system "docs/../a.txt"
  obtain ⟨parts, t, hsplit, hpath, htarget⟩ := ofUrl_of_presignFor isReachable_store hpresign
  refine ⟨m, hrun, fun parts' hparts' hsent => ?_⟩
  obtain rfl : parts = parts' := Except.ok.inj (hsplit.symm.trans hparts')
  obtain ⟨-, hsettle, -⟩ := (sentTo_iff htarget [] _ _).mp hsent
  have hsettled := Url.Target.ofList_settle_eq_iff.mp hsettle
  rw [hpath] at hsettled
  revert hsettled
  decide +kernel

end UrlSigning.Outgoing
