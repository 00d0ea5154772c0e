import UrlSigning.Proofs.Presigning.Signer
import UrlSigning.Proofs.Signing.Frame

/-!
# The expiry that is written

The signer refuses an expiry whose number of seconds is not positive and whole, and writes the
others as that number. What it tells apart is what the number of seconds does: up to `2 ^ 34`
seconds that is every microsecond, from there on no longer.
-/

namespace UrlSigning.Signing

open Http

section

variable {config : Config} {c : Credentials} {now time : DateTime} {r : Request} {d : Duration}
  {n : Int}

/-- The signer refuses just the lengths that come to no whole number of seconds. -/
theorem refuses_expiry_iff (hlocation : config.options.location = .query)
    (hexpires : config.options.expires = some d) :
    (∃ fault, (sign config (some c) now r).failure = some (.signing fault)) ↔
      ¬∃ n, d.ComesTo n := by
  have hseconds : config.options.expirySeconds = expirySeconds (some d) := by
    rw [Options.expirySeconds, hlocation, hexpires]
  constructor
  · rintro ⟨fault, hfailure⟩ ⟨n, hn⟩
    rcases refused_or_isMalformed hfailure with ⟨fault', -, -, hnone | hrefused⟩ | hmalformed
    · cases hnone
    · rw [hseconds, expirySeconds_eq_ok_iff.mpr hn] at hrefused
      cases hrefused
    · exact hmalformed
  · intro hnone
    apply refuses_of
    right
    rcases hrefused : expirySeconds (some d) with fault | n
    · exact ⟨fault, hseconds.trans hrefused⟩
    · exact absurd ⟨n, expirySeconds_eq_ok_iff.mp hrefused⟩ hnone

/-- The signed URL has the number of seconds behind whatever values the parameter had. -/
theorem expires_of_sign (hlocation : config.options.location = .query)
    (hexpires : config.options.expires = some d) (h : (sign config (some c) now r).failure = none) :
    ∃ n parts q, d.ComesTo n ∧ Url.split r.url = .ok parts ∧
      Url.split (sign config (some c) now r).request.url = .ok q ∧
      Url.Query.valuesOf "X-Amz-Expires" (Url.Query.read q.query) =
        Url.Query.valuesOf "X-Amz-Expires"
          (Url.Query.firstValues (Url.Query.read parts.query)) ++ [toString n] := by
  rcases hs : Signer.ofConfig config c now with failure | s
  · rw [sign, hs] at h
    cases h
  have hwritten : expirySeconds (some d) = .ok s.expires := by
    rw [ofConfig_eq, Options.expirySeconds, hlocation, hexpires] at hs
    obtain ⟨expires, hseconds, hs⟩ := bind_eq_ok.mp hs
    obtain ⟨time, -, hs⟩ := bind_eq_ok.mp hs
    cases hs
    exact mapError_eq_ok.mp hseconds
  obtain ⟨hc, hplace⟩ := of_ofConfig hs
  obtain ⟨hfailure, hrequest⟩ := Verification.sign_of_ofConfig hs r
  rw [hfailure] at h
  rw [hrequest]
  have hquery := hplace.trans hlocation
  obtain ⟨url, -, -, hurl, -⟩ := addSignature_query hquery hc h
  obtain ⟨-, -, parts, -, -, -, hparts, -⟩ := queryUrl_eq_ok hurl
  change Url.split r.url = .ok parts at hparts
  obtain ⟨fields, credential, signature, q, -, -, hq, hgives⟩ :=
    split_addSignature hquery hc hparts h
  refine ⟨s.expires, parts, q, expirySeconds_eq_ok_iff.mp hwritten, hparts, hq, ?_⟩
  rw [hgives.valuesOf (by decide), Url.Query.valuesOf_append, valuesOf_expires]

end

/-- For a signature in the query with an expiry, the signer refuses just the lengths whose number of
seconds is not positive and whole. Of a length below `2 ^ 34` seconds, or of whole seconds, that
number tells every microsecond: it is refused if it is not positive or has a part of a second, and
otherwise written as exactly the seconds that it has. Longer ones are taken for a number of seconds
that they are as near to as the number tells. A request for a host of the web is signed unless its
expiry is refused. -/
theorem expiry_written_in_seconds {config : Config} {d : Duration}
    (hlocation : config.options.location = .query) (hexpires : config.options.expires = some d)
    (c : Credentials) (now : DateTime) (r : Request) :
    let signed := sign config (some c) now r
    ((∃ fault, signed.failure = some (.signing fault)) ↔ ¬∃ n, d.ComesTo n) ∧
    (d.micros < 2 ^ 34 * Time.second ∨ d.microOfSecond = 0 →
      ((∃ n, d.ComesTo n) ↔ 0 < d.micros ∧ d.microOfSecond = 0) ∧
        ∀ n, d.ComesTo n → d.micros = n * Time.second) ∧
    (signed.failure = none → ∃ n parts q, d.ComesTo n ∧ Url.split r.url = .ok parts ∧
      Url.split signed.request.url = .ok q ∧
      Url.Query.valuesOf "X-Amz-Expires" (Url.Query.read q.query) =
        Url.Query.valuesOf "X-Amz-Expires"
          (Url.Query.firstValues (Url.Query.read parts.query)) ++ [toString n]) ∧
    ((∃ n, d.ComesTo n) → (∃ time, now.toUtc = .ok time) → (∃ text, c.access = .text text) →
      (∃ text, config.region = .text text) →
      (∃ parts, Url.split r.url = .ok parts ∧ parts.IsHosted) → signed.failure = none) := by
  dsimp only
  refine ⟨refuses_expiry_iff hlocation hexpires, fun htold => ?_,
    expires_of_sign hlocation hexpires, ?_⟩
  · exact ⟨Duration.exists_comesTo_iff htold, fun n hn => hn.micros_eq htold⟩
  · rintro ⟨n, hn⟩ ⟨time, htime⟩ haccess hregion ⟨parts, hparts, hhosted⟩
    have hseconds : config.options.expirySeconds = .ok n := by
      rw [Options.expirySeconds, hlocation, hexpires]
      exact expirySeconds_eq_ok_iff.mpr hn
    exact failure_sign_query hlocation hseconds htime haccess hregion hparts hhosted

/-! ### Lengths of centuries -/

section

open Pipeline

theorem split_readRequest :
    Url.split Sample.readRequest.url = .ok ⟨"https", "bucket.example.com", "/a.txt", "", ""⟩ := by
  decide

theorem exists_hosted_readRequest :
    ∃ parts, Url.split Sample.readRequest.url = .ok parts ∧ parts.IsHosted :=
  split_reading "/a.txt" (by intro c hc; cases hc; rfl)

theorem expiry_written_in_seconds_hour :
    let signed := sign (Sample.inQuery (some Sample.hour.length)) (some Sample.keys) Sample.noon
      Sample.readRequest
    signed.failure = none ∧ ∃ q, Url.split signed.request.url = .ok q ∧
      Url.Query.valuesOf "X-Amz-Expires" (Url.Query.read q.query) = ["3600"] := by
  have hlocation : (Sample.inQuery (some Sample.hour.length)).options.location = .query := rfl
  have hhour : Sample.hour.length.ComesTo 3600 := by decide
  obtain ⟨-, -, hwritten, hsigned⟩ :=
    expiry_written_in_seconds hlocation rfl Sample.keys Sample.noon Sample.readRequest
  have hnone := hsigned ⟨3600, hhour⟩ ⟨Sample.noon, rfl⟩ ⟨_, rfl⟩ ⟨_, rfl⟩ exists_hosted_readRequest
  obtain ⟨n, parts, q, hn, hparts, hq, hvalues⟩ := hwritten hnone
  obtain rfl := hn.eq hhour
  obtain rfl := Except.ok.inj (split_readRequest.symm.trans hparts)
  exact ⟨hnone, q, hq, hvalues⟩

/-- As many seconds as are told to the microsecond, and a microsecond more. -/
def Sample.centuries : Duration := ⟨2 ^ 34 * Time.second + 1, by decide⟩

/-- Of so many seconds a microsecond is not told, and the expiry is not refused. -/
theorem expiry_rounded :
    let signed := sign (Sample.inQuery (some Sample.centuries)) (some Sample.keys) Sample.noon
      Sample.readRequest
    Sample.centuries.microOfSecond = 1 ∧ signed.failure = none ∧
      ∃ q, Url.split signed.request.url = .ok q ∧
        Url.Query.valuesOf "X-Amz-Expires" (Url.Query.read q.query) = ["17179869184"] := by
  have hcenturies : Sample.centuries.ComesTo (2 ^ 34) := by decide
  have hlocation : (Sample.inQuery (some Sample.centuries)).options.location = .query := rfl
  obtain ⟨parts, hparts, hhosted⟩ := exists_hosted_readRequest
  have hnone : (sign (Sample.inQuery (some Sample.centuries)) (some Sample.keys) Sample.noon
      Sample.readRequest).failure = none :=
    failure_sign_query hlocation (expirySeconds_eq_ok_iff.mpr hcenturies) rfl ⟨_, rfl⟩ ⟨_, rfl⟩
      hparts hhosted
  obtain ⟨n, parts', q, hn, hparts', hq, hvalues⟩ := expires_of_sign hlocation rfl hnone
  obtain rfl := hn.eq hcenturies
  obtain rfl := Except.ok.inj (split_readRequest.symm.trans hparts')
  exact ⟨by decide, hnone, q, hq, hvalues⟩

end

end UrlSigning.Signing
