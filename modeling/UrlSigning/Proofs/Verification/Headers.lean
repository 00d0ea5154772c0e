import UrlSigning.Proofs.Signing.Query
import UrlSigning.Proofs.Text.Cut
import UrlSigning.Proofs.Text.Lower
import UrlSigning.Proofs.Verification.Verifier

/-!
# Signed headers

The signer writes the names of the signed headers into the query and a line for each of them into
the canonical request. A verifier that is sent the headers finds the names again and writes the same
lines. The names have to be tokens; others could not be told apart once they are written in a row.
-/

namespace UrlSigning.Verification

open Http Signing Text

/-! ## Tokens -/

/-- The characters that a token can hold besides letters and digits. -/
def tokenSigns : List Char :=
  ['!', '#', '$', '%', '&', '\'', '*', '+', '-', '.', '^', '_', '`', '|', '~']

/-- Whether a token can hold the character. -/
def isTokenChar (c : Char) : Bool :=
  c.isAlphanum || tokenSigns.contains c

/-- The name of a header field: one or more characters of a token. -/
def IsToken (name : String) : Prop :=
  name ≠ "" ∧ ∀ c ∈ name.toList, isTokenChar c = true

theorem toNat_lt_of_isTokenChar {c : Char} (h : isTokenChar c = true) : c.toNat < 128 := by
  have hsigns : (tokenSigns.all fun d => d.toNat < 128) = true := by decide
  rw [isTokenChar, Bool.or_eq_true, List.contains_iff_mem] at h
  rcases h with h | h
  · exact toNat_lt_of_isAlphanum h
  · exact of_decide_eq_true (List.all_eq_true.mp hsigns c h)

theorem not_blank_of_isTokenChar {c : Char} (h : isTokenChar c = true) : isBlank c = false :=
  forall_ascii (P := fun c => isTokenChar c = true → isBlank c = false)
    (by decide) (toNat_lt_of_isTokenChar h) h

theorem toLower_of_isTokenChar {c : Char} (h : isTokenChar c = true) : c.toLower ≠ ';' :=
  forall_ascii (P := fun c => isTokenChar c = true → c.toLower ≠ ';')
    (by decide) (toNat_lt_of_isTokenChar h) h

theorem IsToken.isAscii {name : String} (h : IsToken name) : IsAscii name :=
  fun c hc => toNat_lt_of_isTokenChar (h.2 c hc)

theorem IsToken.trim {name : String} (h : IsToken name) : trim name = name := by
  have htrimmed : IsTrimmed name.toList :=
    ⟨fun c hc => not_blank_of_isTokenChar (h.2 c (List.mem_of_head? hc)),
      fun c hc => not_blank_of_isTokenChar (h.2 c (List.mem_of_getLast? hc))⟩
  rw [Text.trim, trimChars_eq_self htrimmed, String.ofList_toList]

/-- The name of a signed header: it is in lower case, and can be told from other names in a row. -/
structure IsSignedName (name : String) : Prop where
  lower : lower name = name
  trim : trim name = name
  noSemicolon : ';' ∉ name.toList

theorem IsToken.isSignedName {name : String} (h : IsToken name) : IsSignedName (lower name) := by
  refine ⟨lower_lower name, trim_lower h.trim, fun hmem => ?_⟩
  rw [lower_of_ascii h.isAscii, String.toList_ofList] at hmem
  obtain ⟨d, hd, heq⟩ := List.mem_map.mp hmem
  exact toLower_of_isTokenChar (h.2 d hd) heq

theorem isSignedName_host : IsSignedName "host" := by
  refine ⟨?_, ?_, ?_⟩ <;> decide

theorem not_unsigned_host : "host" ∉ unsignedHeaders := by
  decide

theorem IsSignedName.sameName {a b : String} (ha : IsSignedName a) (hb : IsSignedName b) :
    Headers.sameName a b = (a == b) := by
  rw [Headers.sameName, ha.lower, hb.lower]

/-! ## The fields that are signed -/

/-- The fields of a request that are signed, without a host that it does not name. -/
def ownFields (r : Request) : List SignedField :=
  (r.headers.fields.map fun (name, value) => (Text.lower name, some value)).filter
    fun f => !unsignedHeaders.contains f.1

section

variable {r : Request} {fields : List SignedField}

/-- The signed fields are those of the request, with the host of its URL if it names none. -/
theorem fieldsToSign_cases (h : fieldsToSign r = .ok fields) :
    (fields = ownFields r ∧ ∃ f ∈ ownFields r, Headers.sameName f.1 "host" = true) ∨
      ((∀ f ∈ ownFields r, Headers.sameName f.1 "host" = false) ∧
        ∃ host, Url.host? r.url = .ok host ∧ fields = ownFields r ++ [("host", host)]) := by
  have hown : ownFields r = (r.headers.fields.map fun (name, value) =>
    (Text.lower name, some value)).filter fun f => !unsignedHeaders.contains f.1 := rfl
  unfold fieldsToSign at h
  dsimp only at h
  rw [← hown] at h
  split at h
  · next hany =>
      cases h
      exact .inl ⟨rfl, List.any_eq_true.mp hany⟩
  · next hany =>
      obtain ⟨host, hhost, h⟩ := bind_eq_ok.mp h
      cases h
      refine .inr ⟨fun f hf => ?_, host, mapError_eq_ok.mp hhost, rfl⟩
      rw [Bool.not_eq_true, List.any_eq_false] at hany
      simpa using hany f hf

/-- Of a request that names its host, only its own fields are signed. -/
theorem fieldsToSign_of_host (h : ∃ f ∈ ownFields r, Headers.sameName f.1 "host" = true) :
    fieldsToSign r = .ok (ownFields r) := by
  have hany : (ownFields r).any (fun f => Headers.sameName f.1 "host") = true :=
    List.any_eq_true.mpr h
  unfold fieldsToSign
  exact if_pos hany

theorem isSome_of_mem_ownFields {f : SignedField} (hf : f ∈ ownFields r) : f.2.isSome = true := by
  obtain ⟨g, -, rfl⟩ := List.mem_map.mp (List.mem_filter.mp hf).1
  rfl

theorem mem_names_ownFields {name : String} :
    name ∈ (ownFields r).map (·.1) ↔
      name ∉ unsignedHeaders ∧ ∃ f ∈ r.headers.fields, Text.lower f.1 = name := by
  simp only [ownFields, List.mem_map, List.mem_filter]
  constructor
  · rintro ⟨_, ⟨⟨f, hf, rfl⟩, hsigned⟩, rfl⟩
    exact ⟨by simpa using hsigned, f, hf, rfl⟩
  · rintro ⟨hsigned, f, hf, rfl⟩
    exact ⟨(Text.lower f.1, some f.2), ⟨⟨f, hf, rfl⟩, by simpa using hsigned⟩, rfl⟩

/-- The names of the signed fields are those of the request that may be signed, and the host. -/
theorem mem_names_iff (h : fieldsToSign r = .ok fields) {name : String} :
    name ∈ fields.map (·.1) ↔
      name = "host" ∨ name ∉ unsignedHeaders ∧ ∃ f ∈ r.headers.fields, Text.lower f.1 = name := by
  rw [← mem_names_ownFields]
  rcases fieldsToSign_cases h with ⟨rfl, f, hf, hhost⟩ | ⟨-, host, -, rfl⟩
  · have hname : f.1 = "host" := by
      obtain ⟨-, g, -, hg⟩ := mem_names_ownFields.mp (List.mem_map_of_mem hf)
      have hsame := eq_of_beq hhost
      rwa [← hg, lower_lower, hg, isSignedName_host.lower] at hsame
    refine ⟨.inr, ?_⟩
    rintro (rfl | hmem)
    · rw [← hname]
      exact List.mem_map_of_mem hf
    · exact hmem
  · rw [List.map_append, List.mem_append]
    simp [or_comm]

theorem isSignedName_of_mem (htokens : ∀ f ∈ r.headers.fields, IsToken f.1)
    (h : fieldsToSign r = .ok fields) {name : String} (hname : name ∈ fields.map (·.1)) :
    IsSignedName name ∧ name ∉ unsignedHeaders := by
  rcases (mem_names_iff h).mp hname with rfl | ⟨hsigned, f, hf, rfl⟩
  · exact ⟨isSignedName_host, not_unsigned_host⟩
  · exact ⟨(htokens f hf).isSignedName, hsigned⟩

theorem fieldsToSign_ne_nil (h : fieldsToSign r = .ok fields) : fields ≠ [] := by
  rcases fieldsToSign_cases h with ⟨rfl, f, hf, -⟩ | ⟨-, host, -, rfl⟩
  · exact List.ne_nil_of_mem hf
  · simp

/-- The names of the signed fields are the same whatever the URL is. -/
theorem names_eq_of_headers_eq {r' : Request} {fields' : List SignedField}
    (h : fieldsToSign r = .ok fields) (h' : fieldsToSign r' = .ok fields')
    (hheaders : r'.headers = r.headers) : fields'.map (·.1) = fields.map (·.1) := by
  have hown : ownFields r' = ownFields r := by rw [ownFields, hheaders, ownFields]
  rcases fieldsToSign_cases h with ⟨rfl, f, hf, hfhost⟩ | ⟨hnone, host, -, rfl⟩
  · rcases fieldsToSign_cases h' with ⟨rfl, -⟩ | ⟨hnone', -⟩
    · rw [hown]
    · rw [hown] at hnone'
      rw [hnone' f hf] at hfhost
      cases hfhost
  · rcases fieldsToSign_cases h' with ⟨-, f, hf, hfhost⟩ | ⟨-, host', -, rfl⟩
    · rw [hown] at hf
      rw [hnone f hf] at hfhost
      cases hfhost
    · rw [hown, List.map_append, List.map_append]
      rfl

/-! ## Names in a row -/

theorem mem_sortedOnce {names : List String} {name : String} :
    name ∈ sortedOnce names ↔ name ∈ names := by
  rw [sortedOnce, List.mem_mergeSort, List.mem_eraseDups]

/-- The names in a row are the names of the lines. -/
theorem signedNames_eq (htrimmed : ∀ f ∈ r.headers.fields, trim f.1 = f.1)
    (h : fieldsToSign r = .ok fields) :
    signedNames fields = ";".intercalate (sortedOnce (fields.map (·.1))) := by
  have hnames : (fields.map fun f => Text.trim (Text.lower f.1)) = fields.map (·.1) := by
    refine List.map_congr_left fun f hf => ?_
    rcases (mem_names_iff h).mp (List.mem_map_of_mem hf) with hhost | ⟨-, g, hg, hname⟩
    · rw [hhost, isSignedName_host.lower, isSignedName_host.trim]
    · rw [← hname, lower_lower, trim_lower (htrimmed g hg)]
  rw [signedNames, hnames]

/-- A verifier finds the names again. -/
theorem names_found (htokens : ∀ f ∈ r.headers.fields, IsToken f.1)
    (h : fieldsToSign r = .ok fields) :
    (cutAll ';' (signedNames fields).toList).map String.ofList =
      sortedOnce (fields.map (·.1)) := by
  have hne : sortedOnce (fields.map (·.1)) ≠ [] := by
    obtain ⟨f, rest, rfl⟩ := List.exists_cons_of_ne_nil (fieldsToSign_ne_nil h)
    exact List.ne_nil_of_mem (mem_sortedOnce.mpr (List.mem_map_of_mem List.mem_cons_self))
  rw [signedNames_eq (fun f hf => (htokens f hf).trim) h, cutAll_intercalate ';' rfl hne,
    List.map_map]
  · simp [Function.comp_def]
  · intro name hname
    exact (isSignedName_of_mem htokens h (mem_sortedOnce.mp hname)).1.noSemicolon

/-! ## Lines -/

/-- The signed fields of a name are the request's fields of that name. -/
theorem filter_ownFields {name : String} (hlower : lower name = name)
    (hsigned : name ∉ unsignedHeaders) :
    ((ownFields r).filter fun f => Headers.sameName f.1 name) =
      (r.headers.fields.filter fun f => Headers.sameName f.1 name).map
        fun f => (Text.lower f.1, some f.2) := by
  rw [ownFields, List.filter_filter, List.filter_map]
  refine congrArg (List.map _) (List.filter_congr fun f hf => ?_)
  simp only [Function.comp, Headers.sameName, lower_lower, hlower]
  by_cases hname : Text.lower f.1 = name
  · simp [hname, hsigned]
  · simp [hname]

theorem mapM_signedValue (headers : List (String × String)) :
    (headers.map fun f => (Text.lower f.1, some f.2)).mapM signedValue =
      .ok (headers.map fun f => collapseBlanks f.2) := by
  induction headers with
  | nil => rfl
  | cons f headers ih =>
      rw [List.map_cons, List.mapM_cons, ih]
      rfl

/-- A signed name that is not the host is the name of a field of the request. -/
theorem exists_of_mem_names (h : fieldsToSign r = .ok fields) {name : String}
    (hname : name ∈ fields.map (·.1)) (hhost : name ≠ "host") :
    name ∉ unsignedHeaders ∧ ∃ f ∈ r.headers.fields, Text.lower f.1 = name :=
  ((mem_names_iff h).mp hname).resolve_left hhost

/-- The line of a signed name that is not the host holds the values of the request's fields. -/
theorem headerLine_eq_ok (h : fieldsToSign r = .ok fields) {name : String}
    (hname : name ∈ fields.map (·.1)) (hhost : name ≠ "host") :
    headerLine fields name = .ok (name ++ ":" ++ ",".intercalate
      ((r.headers.fields.filter fun f => Headers.sameName f.1 name).map
        fun f => collapseBlanks f.2)) := by
  obtain ⟨hsigned, f, -, rfl⟩ := exists_of_mem_names h hname hhost
  have hown := filter_ownFields (r := r) (lower_lower f.1) hsigned
  have hfound : (fields.filter fun g => Headers.sameName g.1 (lower f.1)) =
      (r.headers.fields.filter fun g => Headers.sameName g.1 (lower f.1)).map
        fun g => (lower g.1, some g.2) := by
    rcases fieldsToSign_cases h with ⟨rfl, -⟩ | ⟨-, host, -, rfl⟩
    · exact hown
    · -- the host that is added has another name
      have hother : Headers.sameName "host" (lower f.1) = false := by
        rw [Headers.sameName, lower_lower, isSignedName_host.lower]
        simpa using Ne.symm hhost
      rw [List.filter_append, hown]
      simp [hother]
  show (_ >>= _) = _
  refine bind_eq_ok.mpr ⟨_, ?_, rfl⟩
  rw [hfound]
  exact mapM_signedValue _

/-- A verifier that is sent the headers finds the values that were signed. -/
theorem headerValues?_eq {m : Presigned} (hheaders : m.headers = r.headers.fields)
    (hhost : Url.host? m.url = Url.host? r.url) (htokens : ∀ f ∈ r.headers.fields, IsToken f.1)
    (h : fieldsToSign r = .ok fields) {name : String} {values : List String}
    (hname : name ∈ fields.map (·.1))
    (hvalues : (fields.filter fun f => Headers.sameName f.1 name).mapM signedValue = .ok values) :
    (headerValues? m name).map (·.map collapseBlanks) = some values := by
  have hsigned := isSignedName_of_mem htokens h hname
  have hown := filter_ownFields (r := r) hsigned.1.lower hsigned.2
  -- the only field that is not among the headers is the host
  unfold headerValues?
  rw [hheaders, hhost]
  rcases fieldsToSign_cases h with ⟨rfl, g, hg, hghost⟩ | ⟨hnone, host, hurl, rfl⟩
  · -- some header names the host
    rw [hown, mapM_signedValue] at hvalues
    cases hvalues
    have hcond : (((r.headers.fields.filter fun f =>
        Headers.sameName f.1 name).map (·.2)).isEmpty && name == "host") = false := by
      by_cases hn : name = "host"
      · subst hn
        have hmem : g ∈ (ownFields r).filter fun f => Headers.sameName f.1 "host" :=
          List.mem_filter.mpr ⟨hg, hghost⟩
        rw [hown] at hmem
        obtain ⟨f, hf, -⟩ := List.mem_map.mp hmem
        simpa using List.ne_nil_of_mem hf
      · simp [hn]
    simp only [hcond]
    simp [Function.comp_def]
  · rw [List.filter_append, hown] at hvalues
    by_cases hn : name = "host"
    · -- the host is that of the URL
      subst hn
      have hnil : (r.headers.fields.filter fun f => Headers.sameName f.1 "host") = [] := by
        rw [← List.map_eq_nil_iff, ← hown, List.filter_eq_nil_iff]
        intro f hf
        simp [hnone f hf]
      have hself : ([("host", host)] : List SignedField).filter
          (fun f => Headers.sameName f.1 "host") = [("host", host)] := by
        simp [Headers.sameName]
      rw [hnil, hself] at hvalues
      rw [hnil, hurl]
      rcases host with _ | host
      · cases hvalues
      · cases hvalues
        rfl
    · have hother : ([("host", host)] : List SignedField).filter
          (fun f => Headers.sameName f.1 name) = [] := by
        have hne : Headers.sameName "host" name = false := by
          rw [isSignedName_host.sameName hsigned.1]
          simpa using Ne.symm hn
        simp [hne]
      rw [hother, List.append_nil, mapM_signedValue] at hvalues
      cases hvalues
      have hcond : (((r.headers.fields.filter fun f =>
          Headers.sameName f.1 name).map (·.2)).isEmpty && name == "host") = false := by
        simp [hn]
      simp only [hcond]
      simp [Function.comp_def]

/-- A verifier that is sent the headers writes the line that was signed. -/
theorem headerLine?_eq {m : Presigned} (hheaders : m.headers = r.headers.fields)
    (hhost : Url.host? m.url = Url.host? r.url) (htokens : ∀ f ∈ r.headers.fields, IsToken f.1)
    (h : fieldsToSign r = .ok fields) {name line : String} (hname : name ∈ fields.map (·.1))
    (hline : headerLine fields name = .ok line) : headerLine? m name = some line := by
  obtain ⟨values, hvalues, hline⟩ := bind_eq_ok.mp hline
  cases hline
  have hfound := headerValues?_eq hheaders hhost htokens h hname hvalues
  unfold headerLine?
  rcases hm : headerValues? m name with _ | own <;> rw [hm] at hfound <;> cases hfound
  rfl

end

end UrlSigning.Verification
