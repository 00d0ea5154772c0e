import Mathlib.Data.List.TakeWhile
import UrlSigning.Proofs.Url.Kept
import UrlSigning.Provider.Basic

/-!
# Where objects are

The URL of an object names the place of the endpoint, with the bucket in front of it or in the path,
and has a path that ends with the encoded key. All characters of such a path are ones that a path
can hold, if those of the endpoint's path and of the bucket are.
-/

namespace UrlSigning.Provider

open Text Url

/-- The host and the port at which objects are reached. -/
def place (p : Provider) (base : Parts) : String :=
  if p.bucketInHost then p.bucket.plain ++ "." ++ base.authority else base.authority

/-- The path of an object. -/
def objectPath (p : Provider) (base : Parts) (key : String) : String :=
  if p.bucketInHost then "/" ++ encodeKey key
  else dropLastSlashes base.path ++ "/" ++ p.bucket.plain ++ "/" ++ encodeKey key

/-- The path of the bucket, behind which the names of its objects stand. -/
def bucketPath (p : Provider) (base : Parts) : String :=
  if p.bucketInHost then "/" else dropLastSlashes base.path ++ "/" ++ p.bucket.plain ++ "/"

/-- The name of the object that a key asks for: the slashes in front of a key do not count. -/
def objectName (key : String) : String :=
  String.ofList (key.toList.dropWhile (· == '/'))

/-- The parts of the URL of an object. -/
def objectParts (p : Provider) (base : Parts) (key : String) : Parts :=
  ⟨base.scheme, p.place base, p.objectPath base key, "", ""⟩

/-- A provider whose endpoint is a URL of the web, of which a client takes the place, and in whose
paths there is nothing to encode. -/
structure IsReachable (p : Provider) (base : Parts) : Prop where
  endpoint : ∃ text, p.endpoint = .text text ∧ split text = .ok base
  scheme : IsWeb base.scheme
  authority : base.authority ≠ ""
  path : ∀ c ∈ base.path.toList, Target.isPathChar c = true
  bucket : ∀ c ∈ p.bucket.plain.toList, Target.isPathChar c = true ∧ c ≠ '/'
  place : ∃ t, Target.ofUrl (base.scheme ++ "://" ++ p.place base) = .ok t

theorem objectUrl_eq {p : Provider} {base : Parts} {text : String}
    (hendpoint : p.endpoint = .text text) (hbase : split text = .ok base) (key : String) :
    p.objectUrl key = .ok (join (p.objectParts base key)) := by
  have htext : p.endpointText = .ok text := by
    rw [endpointText, hendpoint]
  refine bind_eq_ok.mpr ⟨text, mapError_eq_ok.mpr htext,
    bind_eq_ok.mpr ⟨base, mapError_eq_ok.mpr hbase, ?_⟩⟩
  unfold objectParts place objectPath
  split <;> rfl

theorem objectUrl_eq_ok {p : Provider} {key url : String} (h : p.objectUrl key = .ok url) :
    ∃ text base, p.endpoint = .text text ∧ split text = .ok base ∧
      url = join (p.objectParts base key) := by
  have hurl := h
  obtain ⟨text, htext, h⟩ := bind_eq_ok.mp h
  obtain ⟨base, hbase, -⟩ := bind_eq_ok.mp h
  have hbase := mapError_eq_ok.mp hbase
  have hendpoint : p.endpoint = .text text := by
    have htext := mapError_eq_ok.mp htext
    unfold endpointText at htext
    split at htext
    · next hs => exact hs.trans (congrArg Json.text (Except.ok.inj htext))
    · cases htext
    · cases htext
    · split at htext <;> cases htext
  rw [objectUrl_eq hendpoint hbase] at hurl
  exact ⟨text, base, hendpoint, hbase, (Except.ok.inj hurl).symm⟩

theorem objectPath_eq (p : Provider) (base : Parts) (key : String) :
    p.objectPath base key = p.bucketPath base ++ encodeKey key := by
  unfold objectPath bucketPath
  split <;> rfl

/-- A character of the place is one of the bucket, of the endpoint's place, or the point between
them. -/
theorem mem_place {p : Provider} {base : Parts} {c : Char} (h : c ∈ (p.place base).toList) :
    c ∈ p.bucket.plain.toList ∨ c = '.' ∨ c ∈ base.authority.toList := by
  unfold place at h
  split at h
  · simp only [String.toList_append, List.mem_append, or_assoc] at h
    exact h.imp_right (Or.imp_left List.mem_singleton.mp)
  · exact .inr (.inr h)

/-- The URL of an object tells its name. -/
theorem decode_encodeKey (key : String) : Percent.decode (encodeKey key) = objectName key := by
  rw [encodeKey, Percent.encode, Percent.decode, String.toList_ofList,
    Percent.decodeChars_encodeChars (by decide), objectName, String.toList_ofList]

/-- A key of slashes asks for no object. -/
theorem objectName_ne_empty_iff {key : String} :
    objectName key ≠ "" ↔ ∃ c ∈ key.toList, c ≠ '/' := by
  have hempty : objectName key = "" ↔ key.toList.dropWhile (· == '/') = [] := by
    rw [objectName, String.ofList_eq_empty_iff]
  rw [Ne, hempty, List.dropWhile_eq_nil_iff]
  simp

theorem isPathChar_of_safe {c : Char} (h : Percent.safeWith ['/'] c = true) :
    Target.isPathChar c = true := by
  have hascii : c.toNat < 128 := by
    rw [Percent.safeWith, Bool.or_eq_true] at h
    rcases h with h | h
    · exact Percent.toNat_lt_of_isUnreserved h
    · rw [List.mem_singleton.mp (List.contains_iff_mem.mp h)]
      decide
  exact forall_ascii (P := fun d => Percent.safeWith ['/'] d = true → Target.isPathChar d = true)
    (by decide) hascii h

theorem isPathChar_of_mem_encodeKey {key : String} {c : Char} (h : c ∈ (encodeKey key).toList) :
    Target.isPathChar c = true := by
  rw [encodeKey, Percent.encode, String.toList_ofList] at h
  have hsafe : ∀ d, Percent.isUnreserved d = true → Percent.safeWith ['/'] d = true := by
    intro d hd
    rw [Percent.safeWith, hd]
    rfl
  rcases Percent.mem_encodeChars hsafe h with rfl | h
  · rfl
  · exact isPathChar_of_safe h

theorem isPrefix_dropLastSlashes (path : String) :
    (dropLastSlashes path).toList <+: path.toList := by
  rw [dropLastSlashes, String.toList_ofList, ← List.reverse_suffix, List.reverse_reverse]
  exact List.dropWhile_suffix _

/-- A character of the path of an object is a slash, or one of the endpoint's path or of the bucket,
or one that a path can hold. -/
theorem mem_objectPath {p : Provider} {base : Parts} {key : String} {c : Char}
    (h : c ∈ (p.objectPath base key).toList) :
    c = '/' ∨ c ∈ base.path.toList ∨ c ∈ p.bucket.plain.toList ∨ Target.isPathChar c = true := by
  have hkey (h : c ∈ (encodeKey key).toList) := isPathChar_of_mem_encodeKey h
  unfold objectPath at h
  split at h <;> simp only [String.toList_append, List.mem_append] at h
  · rcases h with h | h
    · exact .inl (List.mem_singleton.mp h)
    · exact .inr (.inr (.inr (hkey h)))
  · rcases h with (((h | h) | h) | h) | h
    · exact .inr (.inl ((isPrefix_dropLastSlashes base.path).subset h))
    · exact .inl (List.mem_singleton.mp h)
    · exact .inr (.inr (.inl h))
    · exact .inl (List.mem_singleton.mp h)
    · exact .inr (.inr (.inr (hkey h)))

theorem not_mem_objectPath {p : Provider} {base : Parts} {key : String} {c : Char}
    (hslash : c ≠ '/') (hpath : c ∉ base.path.toList) (hbucket : c ∉ p.bucket.plain.toList)
    (hchar : Target.isPathChar c = false) : c ∉ (p.objectPath base key).toList := by
  intro hmem
  rcases mem_objectPath hmem with hc | hc | hc | hc
  · exact hslash hc
  · exact hpath hc
  · exact hbucket hc
  · rw [hchar] at hc
    cases hc

/-- The path of an object begins with a slash, whatever is left of the endpoint's path. -/
theorem head?_objectPath {p : Provider} {base : Parts} {text : String}
    (hbase : split text = .ok base) (hauthority : p.bucketInHost = false → base.authority ≠ "")
    (key : String) : (p.objectPath base key).toList.head? = some '/' := by
  unfold objectPath
  split
  · simp
  · next hpathStyle =>
      have hleft : (dropLastSlashes base.path).toList = [] ∨
          (dropLastSlashes base.path).toList.head? = some '/' := by
        obtain ⟨dropped, hdropped⟩ := isPrefix_dropLastSlashes base.path
        rcases hpath : (dropLastSlashes base.path).toList with _ | ⟨c, cs⟩
        · exact .inl rfl
        · rw [hpath] at hdropped
          rcases path_of_split hbase (hauthority (by simpa using hpathStyle)) with hempty | hhead
          · rw [hempty] at hdropped
            cases hdropped
          · rw [← hdropped] at hhead
            exact .inr hhead
      simp only [String.toList_append, List.append_assoc]
      rcases hleft with hnil | hhead
      · rw [hnil]
        rfl
      · rw [List.head?_append, hhead]
        rfl

/-- The URL of an object names a place and has a path, unless something of the bucket ends a place
or is dropped. -/
theorem isPlaced_objectParts {p : Provider} {base : Parts} {text : String}
    (hbase : split text = .ok base) (hscheme : IsWeb base.scheme) (hauthority : base.authority ≠ "")
    (hbucket : ∀ c ∈ p.bucket.plain.toList, endsAuthority c = false ∧ isDropped c = false)
    (key : String) : (p.objectParts base key).IsPlaced := by
  obtain ⟨-, hpath⟩ := startsNone_of_split hbase
  obtain ⟨hquery, hfragment⟩ := startsNone_of_endsAuthority fun c hc => (hbucket c hc).1
  refine ⟨hscheme, ?_, ?_, head?_objectPath hbase (fun _ => hauthority) key,
    ⟨not_mem_objectPath (by decide) hpath.1 hquery (by decide),
      not_mem_objectPath (by decide) hpath.2 hfragment (by decide)⟩, ?_, rfl⟩
  · show p.place base ≠ ""
    unfold place
    split
    · simp
    · exact hauthority
  · intro c hc
    rcases mem_place hc with hc | rfl | hc
    · exact (hbucket c hc).1
    · rfl
    · exact endsAuthority_of_split hbase hc
  · intro c hc
    rcases List.mem_append.mp hc with hc | hc
    · rcases mem_place hc with hc | rfl | hc
      · exact (hbucket c hc).2
      · rfl
      · exact kept_authority hbase hc
    · rcases mem_objectPath hc with rfl | hc | hc | hc
      · rfl
      · exact kept_path hbase hc
      · exact (hbucket c hc).2
      · exact Target.isDropped_of_isControl (Target.of_isVisibleBut hc).1

/-- The URL of an object starts a query only if the bucket does. -/
theorem mark_not_mem_objectUrl {p : Provider} {key url : String} (h : p.objectUrl key = .ok url)
    (hbucket : '?' ∉ p.bucket.plain.toList) : '?' ∉ url.toList := by
  obtain ⟨text, base, -, hbase, rfl⟩ := objectUrl_eq_ok h
  obtain ⟨hauthority, hpath⟩ := startsNone_of_split hbase
  refine not_mem_join_bare (p := p.objectParts base key) (by decide) (startsNone_scheme hbase).1
    ?_ ?_
  · intro hmem
    rcases mem_place hmem with hmem | hmem | hmem
    · exact hbucket hmem
    · cases hmem
    · exact hauthority.1 hmem
  · exact not_mem_objectPath (by decide) hpath.1 hbucket (by decide)

namespace IsReachable

variable {p : Provider} {base : Parts} (h : p.IsReachable base) (key : String)

include h

theorem isPathChar_objectPath : ∀ c ∈ (p.objectPath base key).toList,
    Target.isPathChar c = true := by
  intro c hc
  rcases mem_objectPath hc with rfl | hc | hc | hc
  · rfl
  · exact h.path c hc
  · exact (h.bucket c hc).1
  · exact hc

/-- The URL of an object names the place and has a path. -/
theorem isPlaced_objectParts : (p.objectParts base key).IsPlaced := by
  obtain ⟨text, -, hbase⟩ := h.endpoint
  refine Provider.isPlaced_objectParts hbase h.scheme h.authority (fun c hc => ?_) key
  obtain ⟨hchar, hslash⟩ := h.bucket c hc
  have hne {mark : Char} (hmark : Target.isPathChar mark = false) : c ≠ mark := by
    rintro rfl
    rw [hchar] at hmark
    cases hmark
  have hquery : c ≠ '?' := hne (by decide)
  have hfragment : c ≠ '#' := hne (by decide)
  exact ⟨by simp [endsAuthority, hslash, hquery, hfragment],
    Target.isDropped_of_isControl (Target.of_isVisibleBut hchar).1⟩

end IsReachable

end UrlSigning.Provider
