import UrlSigning.Proofs.Provider.ObjectUrl

/-!
# Reading the URL of an object

Whoever reads the URL of an object finds the place of the provider and, behind the path of the
bucket, the encoded name of the object, whatever the key holds. So two keys have one URL just if
they ask for one object. What cannot be read is a bucket in front of a host that is an address in
brackets.
-/

namespace UrlSigning.Provider

open Text Url

/-! ## Names of buckets -/

/-- Whether the name of a bucket may hold the character: a letter, a digit, a point, a hyphen or an
underscore. Outside ASCII this is any character that is not taken for a separator. -/
def isBucketChar (c : Char) : Bool :=
  if c.toNat < 128 then c.isAlphanum || c == '.' || c == '-' || c == '_'
  else !separatorEquivalents.contains c.toNat

/-- The text holds only characters that the name of a bucket may hold. -/
def IsBucketText (s : String) : Prop := ∀ c ∈ s.toList, isBucketChar c = true

section

variable {c : Char} (h : isBucketChar c = true)

include h

theorem ne_of_isBucketChar {mark : Char} (hmark : isBucketChar mark = false) : c ≠ mark := by
  rintro rfl
  rw [h] at hmark
  cases hmark

theorem endsAuthority_of_isBucketChar : endsAuthority c = false := by
  simp only [endsAuthority, Bool.or_eq_false_iff, beq_eq_false_iff_ne]
  exact ⟨⟨ne_of_isBucketChar h rfl, ne_of_isBucketChar h rfl⟩, ne_of_isBucketChar h rfl⟩

theorem isDropped_of_isBucketChar : isDropped c = false := by
  simp only [isDropped, Bool.or_eq_false_iff, beq_eq_false_iff_ne]
  exact ⟨⟨ne_of_isBucketChar h rfl, ne_of_isBucketChar h rfl⟩, ne_of_isBucketChar h rfl⟩

theorem separatorEquivalents_of_isBucketChar : separatorEquivalents.contains c.toNat = false := by
  unfold isBucketChar at h
  split at h
  · next hascii =>
      have houtside : ∀ n ∈ separatorEquivalents, 128 ≤ n := by decide
      rw [← Bool.not_eq_true, List.contains_iff_mem]
      intro hmem
      have hle := houtside _ hmem
      omega
  · simpa using h

end

namespace IsBucketText

variable {s : String} (h : IsBucketText s)

include h

theorem not_mem {mark : Char} (hmark : isBucketChar mark = false) : mark ∉ s.toList :=
  fun hmem => ne_of_isBucketChar (h mark hmem) hmark rfl

theorem point : IsBucketText (s ++ ".") := by
  intro c hc
  rw [String.toList_append, List.mem_append] at hc
  rcases hc with hc | hc
  · exact h c hc
  · rw [List.mem_singleton.mp hc]
    rfl

end IsBucketText

/-- The endpoint is a URL of the web that names a place and no user, and the bucket has a name that
a bucket may have. -/
structure IsAddressable (p : Provider) (base : Parts) : Prop where
  endpoint : ∃ text, p.endpoint = .text text ∧ split text = .ok base
  scheme : IsWeb base.scheme
  authority : base.authority ≠ ""
  user : '@' ∉ base.authority.toList
  bucket : IsBucketText p.bucket.plain

/-! ## What is read -/

/-- The host at which objects are reached. -/
def hostName (p : Provider) (base : Parts) : List Char :=
  if p.bucketInHost then p.bucket.plain.toList ++ '.' :: (hostAndPort base.authority).1
  else (hostAndPort base.authority).1

/-- The parts of a URL show an object: its name is what is encoded behind the path of the bucket. -/
structure Shows (p : Provider) (base : Parts) (name : String) (q : Parts) : Prop where
  scheme : q.scheme = base.scheme
  authority : q.authority = p.place base
  host : hostAndPort q.authority = (p.hostName base, (hostAndPort base.authority).2)
  path : ∃ encoded, q.path = p.bucketPath base ++ encoded ∧ Percent.decode encoded = name
  query : q.query = ""
  fragment : q.fragment = ""

/-- The bucket is put in front of an address in brackets. -/
def IsBeforeBrackets (p : Provider) (base : Parts) : Prop :=
  p.bucketInHost = true ∧ '[' ∈ base.authority.toList

theorem encodeKey_eq_iff {key key' : String} :
    encodeKey key' = encodeKey key ↔ objectName key' = objectName key := by
  constructor
  · intro h
    rw [← decode_encodeKey, ← decode_encodeKey, h]
  · intro h
    exact congrArg (Percent.encode (Percent.safeWith ['/'])) h

namespace IsAddressable

variable {p : Provider} {base : Parts} (h : p.IsAddressable base)

include h

theorem isPlaced_objectParts (key : String) : (p.objectParts base key).IsPlaced := by
  obtain ⟨text, -, hbase⟩ := h.endpoint
  exact Provider.isPlaced_objectParts hbase h.scheme h.authority
    (fun c hc => ⟨endsAuthority_of_isBucketChar (h.bucket c hc),
      isDropped_of_isBucketChar (h.bucket c hc)⟩) key

theorem checkEquivalents_place : checkEquivalents (p.place base).toList = .ok () := by
  obtain ⟨text, -, hbase⟩ := h.endpoint
  have hauthority := checkEquivalents_eq_ok_iff.mp (checks_of_split hbase).2
  rw [checkEquivalents_eq_ok_iff]
  intro c hc
  rcases mem_place hc with hc | rfl | hc
  · exact separatorEquivalents_of_isBucketChar (h.bucket c hc)
  · decide
  · exact hauthority c hc

theorem checkBrackets_place (hbefore : ¬p.IsBeforeBrackets base) :
    checkBrackets (p.place base).toList = .ok () := by
  obtain ⟨text, -, hbase⟩ := h.endpoint
  have hauthority := (checks_of_split hbase).1
  by_cases hstyle : p.bucketInHost = true
  · have hopen : '[' ∉ base.authority.toList := fun hmem => hbefore ⟨hstyle, hmem⟩
    have hclose := mt (mem_iff_of_checkBrackets hauthority).mpr hopen
    rw [place, if_pos hstyle, String.toList_append]
    refine checkBrackets_of_not_mem ?_ ?_ <;> rw [List.mem_append, not_or]
    · exact ⟨h.bucket.point.not_mem rfl, hopen⟩
    · exact ⟨h.bucket.point.not_mem rfl, hclose⟩
  · rw [place, if_neg hstyle]
    exact hauthority

/-- A bucket is nothing that may stand in front of an address in brackets. -/
theorem checkBrackets_place_of_before (hbefore : p.IsBeforeBrackets base) :
    checkBrackets (p.place base).toList = .error .brackets := by
  obtain ⟨hstyle, hopen⟩ := hbefore
  have hpoint := h.bucket.point
  have huser := h.user
  obtain ⟨before, inside, hcut, hfirst⟩ := List.eq_append_cons_of_mem hopen
  rw [hcut] at huser
  rw [place, if_pos hstyle, String.toList_append, hcut, ← List.append_assoc]
  refine checkBrackets_of_text_before (by simp) ?_ ?_
  · rw [List.mem_append, not_or]
    exact ⟨hpoint.not_mem rfl, hfirst⟩
  · rw [List.append_assoc, List.mem_append, not_or]
    exact ⟨hpoint.not_mem rfl, huser⟩

theorem hostAndPort_place (hbefore : ¬p.IsBeforeBrackets base) :
    hostAndPort (p.place base) = (p.hostName base, (hostAndPort base.authority).2) := by
  by_cases hstyle : p.bucketInHost = true
  · have hopen : '[' ∉ base.authority.toList := fun hmem => hbefore ⟨hstyle, hmem⟩
    have hpoint := h.bucket.point
    rw [place, hostName, if_pos hstyle, if_pos hstyle,
      hostAndPort_append ⟨hpoint.not_mem rfl, h.user⟩ ⟨hpoint.not_mem rfl, hopen⟩
        (hpoint.not_mem rfl)]
    simp
  · rw [place, hostName, if_neg hstyle, if_neg hstyle]

theorem objectUrl_eq (key : String) :
    p.objectUrl key =
      .ok (base.scheme ++ ":" ++ ("//" ++ p.place base ++ p.objectPath base key)) := by
  obtain ⟨text, hendpoint, hbase⟩ := h.endpoint
  have hplaced := h.isPlaced_objectParts key
  rw [Provider.objectUrl_eq hendpoint hbase]
  exact congrArg Except.ok (hplaced.join_bare.trans (congrArg _ hplaced.placeOf_eq))

/-- Two keys have one URL just if they ask for one object. -/
theorem objectUrl_eq_iff {key key' : String} :
    p.objectUrl key' = p.objectUrl key ↔ objectName key' = objectName key := by
  rw [h.objectUrl_eq, h.objectUrl_eq, Except.ok.injEq, String.append_right_inj,
    String.append_right_inj, objectPath_eq, objectPath_eq, String.append_right_inj,
    encodeKey_eq_iff]

end IsAddressable

/-- The URL of an object shows its name at the place of the provider, so that two keys have one URL
just if they ask for one object. It cannot be read if the bucket is put in front of an address in
brackets. -/
theorem objectUrl_shows_name {p : Provider} {base : Parts} (h : p.IsAddressable base)
    (key : String) :
    ∃ url, p.objectUrl key = .ok url ∧
      (¬p.IsBeforeBrackets base → ∃ q, split url = .ok q ∧ p.Shows base (objectName key) q) ∧
      (p.IsBeforeBrackets base → split url = .error .brackets) ∧
      ∀ key', p.objectUrl key' = .ok url ↔ objectName key' = objectName key := by
  obtain ⟨text, hendpoint, hbase⟩ := h.endpoint
  have hurl := objectUrl_eq hendpoint hbase key
  have hsplit := (h.isPlaced_objectParts key).split_join_bare
  refine ⟨_, hurl, fun hbefore => ⟨p.objectParts base key, ?_, ?_⟩, fun hbefore => ?_,
    fun key' => ?_⟩
  · refine hsplit.trans ?_
    show (checkBrackets (p.place base).toList >>= _) = _
    rw [h.checkBrackets_place hbefore]
    show (checkEquivalents (p.place base).toList >>= _) = _
    rw [h.checkEquivalents_place]
    rfl
  · exact ⟨rfl, rfl, h.hostAndPort_place hbefore,
      ⟨encodeKey key, objectPath_eq p base key, decode_encodeKey key⟩, rfl, rfl⟩
  · refine hsplit.trans ?_
    show (checkBrackets (p.place base).toList >>= _) = _
    rw [h.checkBrackets_place_of_before hbefore]
    rfl
  · rw [← hurl]
    exact h.objectUrl_eq_iff

def Sample.minio : Provider where
  key := "local"
  name := .text "Local"
  endpoint := .text "http://localhost:9000/minio/"
  access := .text "AKIDEXAMPLE"
  secret := .text "wJalrXUtnFEMI"
  region := .text "us-east-1"
  bucket := .text "test-bucket"

theorem isAddressable_minio :
    Sample.minio.IsAddressable ⟨"http", "localhost:9000", "/minio/", "", ""⟩ where
  endpoint := ⟨"http://localhost:9000/minio/", rfl, by decide +kernel⟩
  scheme := .inl rfl
  authority := by decide
  user := by decide
  bucket := List.all_eq_true.mp (by decide +kernel)

theorem objectUrl_shows_name_reserved :
    Sample.minio.IsAddressable ⟨"http", "localhost:9000", "/minio/", "", ""⟩ ∧
    ∃ url q, Sample.minio.objectUrl "//a b/?#%25.txt" = .ok url ∧ split url = .ok q ∧
      q.authority = "localhost:9000" ∧ q.query = "" ∧ q.fragment = "" ∧
      ∃ encoded, q.path = "/minio/test-bucket/" ++ encoded ∧
        Percent.decode encoded = "a b/?#%25.txt" := by
  obtain ⟨url, hurl, hshows, -, -⟩ := objectUrl_shows_name isAddressable_minio "//a b/?#%25.txt"
  obtain ⟨q, hq, hname⟩ := hshows fun hbefore => absurd hbefore.1 (by decide)
  obtain ⟨encoded, hpath, hdecode⟩ := hname.path
  exact ⟨isAddressable_minio, url, q, hurl, hq, hname.authority, hname.query, hname.fragment,
    encoded, hpath, hdecode⟩

/-- A provider that is reached at an address in brackets and has its bucket in the host. -/
def Sample.atAddress : Provider :=
  { Sample.minio with endpoint := .text "https://[::1]", style := .text "virtual" }

/-- With the bucket in the host, the URL of an object cannot be read if the endpoint names an
address in brackets. -/
theorem bucket_before_address :
    Sample.atAddress.IsAddressable ⟨"https", "[::1]", "", "", ""⟩ ∧
    Sample.atAddress.objectUrl "a.txt" = .ok "https://test-bucket.[::1]/a.txt" ∧
    split "https://test-bucket.[::1]/a.txt" = .error .brackets := by
  have hbase : split "https://[::1]" = .ok ⟨"https", "[::1]", "", "", ""⟩ := by decide +kernel
  refine ⟨⟨⟨_, rfl, hbase⟩, .inr rfl, by decide, by decide, ?_⟩, ?_, by decide +kernel⟩
  · exact isAddressable_minio.bucket
  · rw [objectUrl_eq rfl hbase]
    exact congrArg Except.ok (by decide +kernel)

end UrlSigning.Provider
