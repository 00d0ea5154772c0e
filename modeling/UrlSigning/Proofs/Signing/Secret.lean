import Mathlib.Data.List.DropRight
import UrlSigning.Proofs.Signing.Signer
import UrlSigning.Proofs.Text.Percent

/-!
# What shows of a secret

Nothing that is told or left when a request is signed shows the secret, but for the signature, which
is a keyed hash of a text that is told as well. So two signatures with different secrets fail alike,
tell the same, and leave the same request once the digits of the signature are hidden.
-/

namespace UrlSigning.Signing

open Http Text

/-! ## Hiding a signature -/

/-- Whether the character is a hexadecimal digit. -/
def isDigit (c : Char) : Bool := (Hex.value? c).isSome

/-- The text with a star for the digits at its end, if they stand right after the label. -/
def hideDigits (label s : String) : String :=
  let rest := s.toList.rdropWhile isDigit
  if label.toList <:+ rest then String.ofList rest ++ "*" else s

/-- What a signature is written after. -/
def Location.label : Location → String
  | .headers => "Signature="
  | .query => "X-Amz-Signature="

/-- The request without the digits of a signature: of the one in the header for it, or of the one at
the end of the URL. -/
def Location.hidden (location : Location) (r : Request) : Request :=
  match location with
  | .headers => { r with
      headers := ⟨r.headers.fields.map fun f =>
        if Headers.sameName f.1 "Authorization" then (f.1, hideDigits location.label f.2) else f⟩ }
  | .query => { r with url := hideDigits location.label r.url }

theorem isDigit_of_mem_hex {bs : Bytes} : ∀ c ∈ (Hex.text bs).toList, isDigit c = true := by
  intro c hc
  obtain ⟨n, hn, rfl⟩ := Hex.exists_of_mem_text hc
  rw [isDigit, Hex.value?_digit .lower hn]
  rfl

/-- All digits of a signature are hidden, and nothing else, since no label ends with a digit. -/
theorem hideDigits_hex (location : Location) (before : String) (bs : Bytes) :
    hideDigits location.label (before ++ location.label ++ Hex.text bs) =
      before ++ location.label ++ "*" := by
  obtain ⟨name, hname⟩ : ∃ name, location.label.toList = name ++ ['='] := by
    cases location
    · exact ⟨"Signature".toList, by decide⟩
    · exact ⟨"X-Amz-Signature".toList, by decide⟩
  have hrest : (before ++ location.label ++ Hex.text bs).toList.rdropWhile isDigit =
      (before ++ location.label).toList := by
    rw [String.toList_append, List.rdropWhile, List.reverse_append,
      List.dropWhile_append_of_pos fun c hc => isDigit_of_mem_hex c (List.mem_reverse.mp hc)]
    show (before ++ location.label).toList.rdropWhile isDigit = _
    rw [String.toList_append, hname, ← List.append_assoc]
    exact List.rdropWhile_concat_neg _ _ _ (by decide)
  have hlabel : location.label.toList <:+ (before ++ location.label).toList := by
    rw [String.toList_append]
    exact List.suffix_append _ _
  rw [hideDigits, hrest, if_pos hlabel, String.ofList_toList]

/-! ## Where a signature is put -/

/-- The request with digits behind a text and the label: in a header at the end, or at the end of
the URL. -/
def Location.put (location : Location) (r : Request) (before digits : String) : Request :=
  match location with
  | .headers => { r with
      headers := r.headers.add "Authorization" (before ++ location.label ++ digits) }
  | .query => { r with url := r.url ++ before ++ location.label ++ digits }

/-- Whatever signature is put into a request, it leaves the same once it is hidden. -/
theorem hidden_put (location : Location) (r : Request) (before : String) (bs bs' : Bytes) :
    location.hidden (location.put r before (Hex.text bs)) =
      location.hidden (location.put r before (Hex.text bs')) := by
  cases location with
  | headers =>
      have hname : Headers.sameName "Authorization" "Authorization" = true := beq_self_eq_true _
      simp only [Location.hidden, Location.put, Headers.add, List.map_append, List.map_cons,
        List.map_nil, if_pos hname, hideDigits_hex]
  | query =>
      simp only [Location.hidden, Location.put, hideDigits_hex]

/-- What stands before the label of a signature. -/
def Signer.before (s : Signer) (access : Json) (r : Request) : Except Failure String :=
  match s.location with
  | .headers => do
    let credential ← s.scope.credential access
    let fields ← fieldsToSign r
    return ", ".intercalate
      [s!"{algorithm} Credential={credential}", s!"SignedHeaders={signedNames fields}", ""]
  | .query => return "&"

/-- Whether a signature can be put in does not depend on the signature. -/
theorem inject_eq (s : Signer) (c : Credentials) (r : Request) (digits : String) :
    s.inject c r digits =
      (s.before c.access r).map fun before => s.location.put r before digits := by
  unfold Signer.inject Signer.before
  cases s.location with
  | headers =>
      unfold Signer.authorization
      dsimp only
      rcases s.scope.credential c.access with failure | credential
      · rfl
      rcases fieldsToSign r with failure | fields
      · rfl
      show Except.ok _ = Except.ok _
      simp only [Location.put, Location.label, String.intercalate_cons_cons,
        String.intercalate_singleton, String.append_empty, String.append_assoc]
      rfl
  | query =>
      show Except.ok _ = Except.ok _
      simp only [Location.put, Location.label, String.append_assoc, String.reduceAppend]
      rfl

/-! ## Signing with any secret -/

/-- What signing comes to whatever the secret is: it stops with a failure, or puts a signature into
a request, after the text that is signed was told. -/
inductive Outline where
  | stopped (left : Request) (log : List Event) (failure : Failure)
  | signed (prepared : Request) (before : String) (log : List Event) (scope : Scope) (text : String)

/-- What is left with a certain secret. -/
def Outline.filled (location : Location) (secret : Json) : Outline → Signed
  | .stopped left log failure => ⟨left, log, some failure⟩
  | .signed prepared before log scope text =>
      ⟨location.put prepared before (signature secret scope text), log ++ [.stringToSign text],
        none⟩

/-- The outline with an event that was told before. -/
def Outline.after (e : Event) : Outline → Outline
  | .stopped left log failure => .stopped left (e :: log) failure
  | .signed prepared before log scope text => .signed prepared before (e :: log) scope text

theorem filled_after (location : Location) (secret : Json) (e : Event) (o : Outline) :
    (o.after e).filled location secret =
      { o.filled location secret with log := e :: (o.filled location secret).log } := by
  cases o <;> rfl

/-- What two signatures leave differs in the digits of the signature at most. -/
structure Signed.SameButDigits (location : Location) (one other : Signed) : Prop where
  failure : one.failure = other.failure
  log : one.log = other.log
  request : location.hidden one.request = location.hidden other.request
  unsigned : one.failure ≠ none → one.request = other.request

/-- Every keyed hash is written in digits, so all that two secrets fill in can be hidden. -/
theorem sameButDigits_filled (location : Location) (o : Outline) (secret secret' : Json) :
    (o.filled location secret).SameButDigits location (o.filled location secret') := by
  cases o with
  | stopped left log failure => exact ⟨rfl, rfl, rfl, fun _ => rfl⟩
  | signed prepared before log scope text =>
      exact ⟨rfl, rfl, hidden_put location prepared before _ _, fun h => absurd rfl h⟩

/-! ## The signer -/

/-- The signer with other keys. -/
def Signer.withKeys (s : Signer) (c : Credentials) : Signer := { s with credentials := some c }

section

variable (s : Signer) (c : Credentials)

theorem credentials_withKeys : (s.withKeys c).credentials = some c := rfl

@[simp] theorem location_withKeys : (s.withKeys c).location = s.location := rfl

@[simp] theorem stamp_withKeys : (s.withKeys c).stamp = s.stamp := rfl

@[simp] theorem scope_withKeys : (s.withKeys c).scope = s.scope := rfl

@[simp] theorem form_withKeys : (s.withKeys c).form = s.form := rfl

theorem setDate_withKeys (h : Headers) : (s.withKeys c).setDate h = s.setDate h := by
  simp only [Signer.setDate, Signer.withKeys, Signer.stamp]

end

section

variable (access : Json) (token : Option String) (r : Request)

theorem exists_outline_signPrepared (s : Signer) :
    ∃ o : Outline, ∀ secret,
      s.signPrepared ⟨access, secret, token⟩ r = o.filled s.location secret := by
  unfold Signer.signPrepared
  rcases canonicalRequest s.form r with failure | canonical
  · exact ⟨.stopped r [] failure, fun _ => rfl⟩
  dsimp only
  rcases stringToSign s.stamp s.scope canonical with failure | text
  · exact ⟨.stopped r [.canonicalRequest canonical] failure, fun _ => rfl⟩
  simp only [inject_eq]
  rcases s.before access r with failure | before
  · exact ⟨.stopped r [.canonicalRequest canonical, .stringToSign text] failure, fun _ => rfl⟩
  · exact ⟨.signed r before [.canonicalRequest canonical] s.scope text, fun _ => rfl⟩

/-- A request is prepared without the secret. -/
theorem prepare_withKeys (s : Signer) (secret secret' : Json) :
    (s.withKeys ⟨access, secret, token⟩).prepare ⟨access, secret, token⟩ r =
      (s.withKeys ⟨access, secret', token⟩).prepare ⟨access, secret', token⟩ r := by
  simp only [Signer.withKeys, Signer.prepare, Signer.prepareHeaders, Signer.setDate,
    Signer.prepareQuery, Signer.queryUrl, Signer.authParameters, Signer.scope, Signer.stamp]

theorem exists_outline_addSignature (s : Signer) :
    ∃ o : Outline, ∀ secret,
      (s.withKeys ⟨access, secret, token⟩).addSignature r = o.filled s.location secret := by
  rcases hprepare : (s.withKeys ⟨access, .null, token⟩).prepare ⟨access, .null, token⟩ r
    with ⟨prepared, _ | failure⟩
  · obtain ⟨o, ho⟩ := exists_outline_signPrepared access token prepared s
    refine ⟨o, fun secret => ?_⟩
    rw [Signer.addSignature, credentials_withKeys]
    dsimp only
    rw [prepare_withKeys access token r s secret .null, hprepare]
    exact ho secret
  · refine ⟨.stopped prepared [] failure, fun secret => ?_⟩
    rw [Signer.addSignature, credentials_withKeys]
    dsimp only
    rw [prepare_withKeys access token r s secret .null, hprepare]
    rfl

/-- To leave the token out is to keep the access key and the secret, whatever the secret is. -/
theorem exists_withoutToken (omitted : Bool) :
    ∃ token' : Option String, ∀ secret,
      (Credentials.mk access secret token).withoutToken omitted = ⟨access, secret, token'⟩ := by
  by_cases h : (omitted && (token.map fun t => !t.isEmpty).getD false) = true
  · exact ⟨none, fun _ => if_pos h⟩
  · exact ⟨token, fun _ => if_neg h⟩

/-- A configuration and a time make a signer for every secret, or fail with each in the same way. -/
theorem exists_ofConfig (config : Config) (now : DateTime) :
    (∃ failure, ∀ secret, Signer.ofConfig config ⟨access, secret, token⟩ now = .error failure) ∨
      ∃ (s : Signer) (token' : Option String), s.location = config.options.location ∧ ∀ secret,
        Signer.ofConfig config ⟨access, secret, token⟩ now =
          .ok (s.withKeys ⟨access, secret, token'⟩) := by
  obtain ⟨token', htoken⟩ := exists_withoutToken access token config.options.omitToken
  simp only [ofConfig_eq, htoken]
  rcases config.options.expirySeconds.mapError Failure.signing with failure | expires
  · exact .inl ⟨failure, fun _ => rfl⟩
  rcases (now.toUtc).mapError Failure.time with failure | time
  · exact .inl ⟨failure, fun _ => rfl⟩
  · exact .inr ⟨⟨none, config.region, config.service, config.options.location, time,
      config.options.payload, config.options.normalizePath, config.options.encodePath, expires⟩,
      token', rfl, fun _ => rfl⟩

/-- Signing has one outline for all secrets. -/
theorem exists_outline_sign (config : Config) (now : DateTime) :
    ∃ o : Outline, ∀ secret, sign config (some ⟨access, secret, token⟩) now r =
      o.filled config.options.location secret := by
  rcases exists_ofConfig access token config now with ⟨failure, hs⟩ | ⟨s, token', hlocation, hs⟩
  · refine ⟨.stopped r [] failure, fun secret => ?_⟩
    rw [sign, hs]
    rfl
  · obtain ⟨o, ho⟩ := exists_outline_addSignature access token' r s
    refine ⟨o.after (.signing r.method r.url config.options.location.name), fun secret => ?_⟩
    rw [sign, hs, filled_after, ← hlocation, ← ho]

end

/-- Whatever the secrets are, two signatures of a request with the same access key and token fail in
the same way, tell the same, and leave the same request once the digits of the signature are hidden;
where they fail, nothing has to be hidden. They have one outline, into which the secret only comes
as the key of a hash. -/
theorem secret_shows_in_signature_only (config : Config) (access : Json) (token : Option String)
    (now : DateTime) (r : Request) :
    (∃ o : Outline, ∀ secret, sign config (some ⟨access, secret, token⟩) now r =
      o.filled config.options.location secret) ∧
    ∀ secret secret' : Json, (sign config (some ⟨access, secret, token⟩) now r).SameButDigits
      config.options.location (sign config (some ⟨access, secret', token⟩) now r) := by
  obtain ⟨o, ho⟩ := exists_outline_sign access token r config now
  refine ⟨⟨o, ho⟩, ?_⟩
  intro secret secret'
  rw [ho, ho]
  exact sameButDigits_filled config.options.location o secret secret'

end UrlSigning.Signing
