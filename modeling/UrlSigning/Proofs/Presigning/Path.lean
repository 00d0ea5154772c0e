import UrlSigning.Proofs.Presigning.Signer
import UrlSigning.Proofs.Signing.Frame
import UrlSigning.Proofs.Url.Canonical

/-!
# The path that is signed

The second line of a canonical request is the path of the request's URL, with the steps that the
configuration asks for. A client asks for a path that begins with a slash, whatever the URL is; the
path that is signed is empty if that of the URL is and it is not normalized.
-/

namespace UrlSigning

open Text

/-! ## Canonical paths -/

namespace Url.Path

/-- A canonical path is empty just when the path is and it is not normalized. -/
theorem head?_canonical (normalized encoded : Bool) {path : String}
    (h : path = "" ∨ path.toList.head? = some '/') :
    (canonical normalized encoded path).toList.head? = some '/' ↔
      normalized = true ∨ path ≠ "" := by
  have hencoded {path : String} (h : path = "" ∨ path.toList.head? = some '/') :
      (if encoded then encode path else path).toList.head? = path.toList.head? := by
    split
    · exact head?_encode h
    · rfl
  unfold canonical
  dsimp only
  cases normalized with
  | true =>
      have hslash := (isNormal_normalize h).slash
      rw [if_pos rfl, hencoded (.inr hslash), hslash]
      simp
  | false =>
      rw [if_neg Bool.false_ne_true, hencoded h]
      rcases h with rfl | hslash
      · simp
      · have hne : path ≠ "" := by
          rintro rfl
          cases hslash
        simp [hslash, hne]

end Url.Path

namespace Signing

/-! ## The canonical request that is told -/

variable {s : Signer} {c : Credentials} {r prepared : Http.Request} {parts : Url.Parts}
  {text : String}

/-- What is told of a prepared request is its canonical request. -/
theorem canonicalRequest_of_mem_log (h : .canonicalRequest text ∈ (s.signPrepared c r).log) :
    canonicalRequest s.form r = .ok text := by
  rcases signPrepared_cases s c r with ⟨_, -, hs⟩ | ⟨canonical, _, hcanonical, -, hs⟩ |
    ⟨canonical, _, hcanonical, -, ⟨_, -, hs⟩ | ⟨_, -, hs⟩⟩ <;> rw [hs] at h
  · cases h
  all_goals
    obtain rfl : text = canonical := by simpa using h
    exact hcanonical

/-- A prepared request that is signed has its canonical request told. -/
theorem exists_mem_log (h : (s.signPrepared c r).failure = none) :
    ∃ text, .canonicalRequest text ∈ (s.signPrepared c r).log := by
  rcases signPrepared_cases s c r with ⟨_, -, hs⟩ | ⟨_, _, -, -, hs⟩ |
    ⟨_, _, -, -, ⟨_, -, hs⟩ | ⟨_, -, hs⟩⟩ <;> rw [hs] at h ⊢
  · cases h
  · cases h
  · cases h
  · exact ⟨_, List.mem_cons_self⟩

/-- To prepare a request changes no more of its URL than the query. -/
theorem url_of_prepare (h : s.prepare c r = (prepared, none)) :
    prepared.url = r.url ∨ ∃ parts query, Url.split r.url = .ok parts ∧ query ≠ "" ∧
      prepared.url = Url.join { parts with query := query } := by
  unfold Signer.prepare at h
  split at h
  · unfold Signer.prepareHeaders at h
    split at h <;> cases h
    exact .inl rfl
  · unfold Signer.prepareQuery at h
    dsimp only at h
    split at h
    · next url hurl =>
        cases h
        obtain ⟨fields, credential, parts, own, -, -, hparts, -, hjoin⟩ := queryUrl_eq_ok hurl
        have hne : own ++ s.authParameters c credential (signedNames fields) ≠ [] := by
          simp [Signer.authParameters]
        exact .inr ⟨parts, _, hparts, Url.Query.write_ne_empty hne, hjoin⟩
    · cases h

/-- A URL with an authority has the same path when it is prepared. -/
theorem path_of_prepare (h : s.prepare c r = (prepared, none)) (hurl : Url.split r.url = .ok parts)
    (hauthority : parts.authority ≠ "") {q : Url.Parts} (hq : Url.split prepared.url = .ok q) :
    q.path = parts.path := by
  rcases url_of_prepare h with hsame | ⟨parts', query, hparts, hne, hjoin⟩
  · rw [hsame] at hq
    rw [Except.ok.inj (hq.symm.trans hurl)]
  · obtain rfl : parts = parts' := Except.ok.inj (hurl.symm.trans hparts)
    rw [hjoin] at hq
    exact ((Url.samePlace_iff hurl hne hq).mpr fun hnone => absurd hnone hauthority).2.2

/-- The path that a configuration has signed for a path. -/
def Config.signedPath (config : Config) (path : String) : String :=
  Url.Path.canonical config.options.normalizePath config.options.encodePath path

variable {config : Config} {credentials : Option Credentials} {now : DateTime}

theorem form_of_ofConfig (h : Signer.ofConfig config c now = .ok s) :
    s.form.normalizePath = config.options.normalizePath ∧
      s.form.encodePath = config.options.encodePath := by
  rw [ofConfig_eq] at h
  obtain ⟨expires, -, h⟩ := bind_eq_ok.mp h
  obtain ⟨time, -, h⟩ := bind_eq_ok.mp h
  cases h
  exact ⟨rfl, rfl⟩

/-- Signing fails before any canonical request is written, or signs what it prepared. -/
theorem sign_silent_or_prepared (config : Config) (credentials : Option Credentials)
    (now : DateTime) (r : Http.Request) :
    ((sign config credentials now r).failure ≠ none ∧
      ∀ text, .canonicalRequest text ∉ (sign config credentials now r).log) ∨
    ∃ c own s prepared, Signer.ofConfig config c now = .ok s ∧
      s.prepare own r = (prepared, none) ∧
      sign config credentials now r = (s.signPrepared own prepared).behind
        (.signing r.method r.url config.options.location.name) := by
  rcases sign_cases config credentials now r with ⟨-, h⟩ | ⟨_, _, -, -, h⟩ | ⟨c, s, -, hs, h⟩ <;>
    rw [h]
  · exact .inl ⟨Option.some_ne_none _, fun _ => List.not_mem_nil⟩
  · exact .inl ⟨Option.some_ne_none _, fun _ => List.not_mem_nil⟩
  · rcases silent_or_signPrepared s r with ⟨hfailure, hlog⟩ | ⟨own, prepared, -, hprepare, hsigned⟩
    · exact .inl ⟨hfailure, by simp [hlog]⟩
    · exact .inr ⟨c, own, s, prepared, hs, hprepare, by rw [hsigned]⟩

/-- The canonical request that is told of a prepared request has the signed path in its second
line. -/
theorem canonicalRequest_of_prepare (h : s.prepare c r = (prepared, none))
    (hurl : Url.split r.url = .ok parts) (hauthority : parts.authority ≠ "")
    (hform : s.form.normalizePath = config.options.normalizePath ∧
      s.form.encodePath = config.options.encodePath)
    (htext : canonicalRequest s.form prepared = .ok text) :
    ∃ rest, text = Text.upper r.method ++ "\n" ++ config.signedPath parts.path ++ "\n" ++ rest := by
  have hmethod : prepared.method = r.method := by
    have hsame := sameMessage_prepare s c r
    rw [h] at hsame
    exact hsame.method
  obtain ⟨q, fields, lines, hq, -, -, rfl⟩ := canonicalRequest_eq_ok htext
  rw [hmethod, path_of_prepare h hurl hauthority hq, hform.1, hform.2,
    String.intercalate_cons_cons, String.intercalate_cons_cons, ← String.append_assoc,
    ← String.append_assoc]
  exact ⟨_, rfl⟩

/-- The second line of a canonical request that signing tells is the signed path. -/
theorem second_line_of_sign (hurl : Url.split r.url = .ok parts) (hauthority : parts.authority ≠ "")
    (htext : .canonicalRequest text ∈ (sign config credentials now r).log) :
    ∃ rest, text = Text.upper r.method ++ "\n" ++ config.signedPath parts.path ++ "\n" ++ rest := by
  rcases sign_silent_or_prepared config credentials now r with
    ⟨-, hnone⟩ | ⟨c, own, s, prepared, hs, hprepare, hsign⟩
  · exact absurd htext (hnone text)
  · rw [hsign] at htext
    rcases List.mem_cons.mp htext with hfirst | hmem
    · cases hfirst
    · exact canonicalRequest_of_prepare hprepare hurl hauthority (form_of_ofConfig hs)
        (canonicalRequest_of_mem_log hmem)

/-- Signing that succeeds tells a canonical request. -/
theorem exists_canonicalRequest_of_sign (h : (sign config credentials now r).failure = none) :
    ∃ text, .canonicalRequest text ∈ (sign config credentials now r).log := by
  rcases sign_silent_or_prepared config credentials now r with
    ⟨hfailure, -⟩ | ⟨c, own, s, prepared, -, -, hsign⟩
  · exact absurd h hfailure
  · rw [hsign] at h ⊢
    obtain ⟨text, hmem⟩ := exists_mem_log h
    exact ⟨text, List.mem_cons_of_mem _ hmem⟩

/-- Whatever is signed, as a configuration says, of a request whose URL has an authority, the second
line of its canonical request is the path with the steps that are asked for. It begins with a slash
just when the path is normalized or not empty. -/
theorem sign_covers_path (config : Config) (credentials : Option Credentials) (now : DateTime)
    (hurl : Url.split r.url = .ok parts) (hauthority : parts.authority ≠ "") :
    (∀ text, .canonicalRequest text ∈ (sign config credentials now r).log →
      ∃ rest, text =
        Text.upper r.method ++ "\n" ++ config.signedPath parts.path ++ "\n" ++ rest) ∧
    ((sign config credentials now r).failure = none →
      ∃ text, .canonicalRequest text ∈ (sign config credentials now r).log) ∧
    ((config.signedPath parts.path).toList.head? = some '/' ↔
      config.options.normalizePath = true ∨ parts.path ≠ "") :=
  ⟨fun _ htext => second_line_of_sign hurl hauthority htext, exists_canonicalRequest_of_sign,
    Url.Path.head?_canonical _ _ (Url.path_of_split hurl hauthority)⟩

/-! ### Reading from a bucket -/

section

open Pipeline

/-- Reading from the bucket is signed as presigning it for an hour has it signed. -/
def Sample.signedReading (rest : String) : Signed :=
  sign (presigned Sample.hour .unsigned (Plugin.setupConfig "us-east-1" "s3" none))
    (some Sample.keys) Sample.noon ((Sample.reading rest).serialize ⟨true, true⟩)

theorem failure_signedReading (rest : String) (hrest : Url.Follows rest.toList) :
    (Sample.signedReading rest).failure = none := by
  obtain ⟨m, hm⟩ := exists_presign_hour rest hrest
  have hsigned := failure_sign_of_presign hm
  exact hsigned

theorem upper_method_reading (rest : String) :
    Text.upper ((Sample.reading rest).serialize ⟨true, true⟩).method = "GET" := by
  show Text.upper (Text.upper "GET") = "GET"
  rw [Text.upper_upper]
  decide

theorem sign_covers_path_read :
    ∃ text rest, .canonicalRequest text ∈ (Sample.signedReading "/a.txt").log ∧
      text = "GET" ++ "\n" ++ "/a.txt" ++ "\n" ++ rest := by
  have hurl : Url.split ((Sample.reading "/a.txt").serialize ⟨true, true⟩).url =
      .ok ⟨"https", "bucket.example.com", "/a.txt", "", ""⟩ := by
    decide
  obtain ⟨htext, hexists, -⟩ := sign_covers_path
    (presigned Sample.hour .unsigned (Plugin.setupConfig "us-east-1" "s3" none)) (some Sample.keys)
    Sample.noon hurl (by decide)
  obtain ⟨text, hmem⟩ := hexists (failure_signedReading "/a.txt" fun c hc => by cases hc; rfl)
  obtain ⟨rest, hrest⟩ := htext text hmem
  rw [upper_method_reading] at hrest
  exact ⟨text, rest, hmem, hrest⟩

/-- An empty path is signed as it is. -/
theorem signs_empty_path :
    ∃ text rest, .canonicalRequest text ∈ (Sample.signedReading "?list-type=2").log ∧
      text = "GET" ++ "\n" ++ "" ++ "\n" ++ rest := by
  have hurl : Url.split ((Sample.reading "?list-type=2").serialize ⟨true, true⟩).url =
      .ok ⟨"https", "bucket.example.com", "", "list-type=2", ""⟩ := by
    decide
  obtain ⟨text, hmem⟩ := exists_canonicalRequest_of_sign
    (failure_signedReading "?list-type=2" fun c hc => by cases hc; rfl)
  obtain ⟨rest, hrest⟩ := second_line_of_sign hurl (by decide) hmem
  rw [upper_method_reading] at hrest
  exact ⟨text, rest, hmem, hrest⟩

end

end Signing

end UrlSigning
