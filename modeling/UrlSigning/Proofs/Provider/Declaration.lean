import UrlSigning.Proofs.Provider.Load
import UrlSigning.Proofs.Text.Cut
import UrlSigning.Proofs.Text.Digit

/-!
# Declarations

A provider as somebody declares it, in variables or in a file, and what both ways of loading it have
in common: the fields of a good declaration pass every check. The names of the variables that good
declarations need never collide, because no end of such a name is the end of another one.
-/

namespace UrlSigning.Provider

structure Declaration where
  key : String
  name : String
  endpoint : String
  region : String
  access : String
  secret : String
  bucket : String
  style : String
  expires : Int

namespace Declaration

/-- The provider that is declared. -/
def provider (d : Declaration) : Provider where
  key := d.key
  name := .text d.name
  endpoint := .text d.endpoint
  access := .text d.access
  secret := .text d.secret
  region := .text d.region
  bucket := .text d.bucket
  style := .text d.style
  expires := d.expires

/-- The variable that declares the provider. -/
def declaring (d : Declaration) : String × String :=
  ("PROVIDER_" ++ d.key, "|".intercalate [d.name, d.endpoint, d.region, d.style])

/-- The ends of the names of a provider's own variables. -/
def endings : List String := ["_ACCESS_KEY", "_SECRET_KEY", "_BUCKET", "_PRESIGN_EXPIRES"]

/-- The provider's own variables. -/
def own (d : Declaration) : Environment :=
  [(d.key ++ "_ACCESS_KEY", d.access), (d.key ++ "_SECRET_KEY", d.secret),
    (d.key ++ "_BUCKET", d.bucket), (d.key ++ "_PRESIGN_EXPIRES", toString d.expires)]

/-- The fields that are texts in both places. -/
def texts (d : Declaration) : Entries String Json :=
  [("provider_name", .text d.name), ("endpoint_url", .text d.endpoint),
    ("region_name", .text d.region), ("addressing_style", .text d.style),
    ("aws_access_key_id", .text d.access), ("aws_secret_access_key", .text d.secret),
    ("bucket_name", .text d.bucket)]

/-- The fields of the provider in a file. -/
def fields (d : Declaration) : Entries String Json :=
  d.texts ++ [("presign_expires_seconds", .int d.expires)]

/-- The declaration can be written in both places, and passes the checks there. -/
structure IsGood (d : Declaration) : Prop where
  /-- The provider's own variables do not look like declarations. -/
  key : d.key ≠ "PROVIDER" ∧ ¬"PROVIDER_".toList <+: d.key.toList
  bars : ∀ part ∈ [d.name, d.endpoint, d.region], '|' ∉ part.toList
  given : d.access ≠ "" ∧ d.secret ≠ "" ∧ d.bucket ≠ ""
  style : d.style = "path" ∨ d.style = "virtual"
  expires : 1 ≤ d.expires ∧ d.expires ≤ 604800

variable {d d' : Declaration}

/-! ## The checks -/

theorem IsGood.checkStyle_eq (h : d.IsGood) (source : String) :
    checkStyle source (.text d.style) = .ok (.text d.style) := by
  refine checkStyle_eq_ok_iff.mpr ⟨d.style, ?_, rfl, rfl⟩
  rcases h.style with hs | hs <;> rw [hs] <;> decide

/-- The seconds of a good declaration have few digits. -/
theorem IsGood.length_expires_le (h : d.IsGood) :
    (Nat.toDigits 10 d.expires.natAbs).length ≤ Text.maxDigits := by
  obtain ⟨hlow, hhigh⟩ := h.expires
  have hsix : (Nat.toDigits 10 d.expires.natAbs).length ≤ 6 :=
    (Nat.length_toDigits_le_iff (by decide) (by decide)).mpr (by omega)
  exact Nat.le_trans hsix (by decide)

/-- The seconds pass as a number and as a text. -/
theorem IsGood.checkExpiry_eq (h : d.IsGood) (source : String) {value : Json}
    (hvalue : value = .int d.expires ∨ value = .text (toString d.expires)) :
    checkExpiry source value = .ok d.expires := by
  have hwhole : wholeNumber source value = .ok d.expires := by
    rcases hvalue with rfl | rfl
    · rfl
    · rw [wholeNumber, Text.readInteger?_toString h.length_expires_le]
  rw [checkExpiry, hwhole]
  exact if_pos h.expires

/-- Fields that hold what is declared, the seconds in either form, make the provider. -/
theorem IsGood.ofFields_eq (h : d.IsGood) {fields : Entries String Json}
    (htexts : ∀ f ∈ d.texts, fields.get? f.1 = some f.2) {expiry : Json}
    (hexpiry : fields.get? "presign_expires_seconds" = some expiry)
    (hvalue : expiry = .int d.expires ∨ expiry = .text (toString d.expires))
    (styleSource expirySource : String) :
    ofFields d.key (.object fields) styleSource expirySource = .ok d.provider := by
  simp only [texts, List.forall_mem_cons] at htexts
  obtain ⟨hname, hendpoint, hregion, hstyle, haccess, hsecret, hbucket, -⟩ := htexts
  unfold ofFields
  simp only [Json.field?, hname, hendpoint, hregion, hstyle, haccess, hsecret, hbucket, hexpiry,
    Option.getD_some, h.checkStyle_eq, h.checkExpiry_eq _ hvalue]
  rfl

/-! ## The names of variables -/

theorem keys_own (d : Declaration) : Entries.keys d.own = endings.map (d.key ++ ·) := by
  rfl

/-- No end is the end of another one, so the name of a provider's own variable tells the key. -/
theorem key_eq_of_ending {key key' ending ending' : String} (h : ending ∈ endings)
    (h' : ending' ∈ endings) (heq : key ++ ending = key' ++ ending') :
    key = key' ∧ ending = ending' := by
  have hdistinct : ∀ e ∈ endings, ∀ e' ∈ endings, e.toList <:+ e'.toList → e = e' := by
    decide +kernel
  have heq' := congrArg String.toList heq
  rw [String.toList_append, String.toList_append] at heq'
  have hending : ending = ending' := by
    have hsuffix : ending.toList <:+ key'.toList ++ ending'.toList := ⟨key.toList, heq'⟩
    rcases List.suffix_or_suffix_of_suffix hsuffix (List.suffix_append _ _) with hs | hs
    · exact hdistinct _ h _ h' hs
    · exact (hdistinct _ h' _ h hs).symm
  subst hending
  exact ⟨String.toList_inj.mp (List.append_cancel_right heq'), rfl⟩

/-- The name of a provider's own variable does not begin like a declaration: the key would have to
begin like one or be all but the underscore of its beginning. -/
theorem IsGood.not_prefix_own (h : d.IsGood) {ending : String} (hending : ending ∈ endings) :
    ¬"PROVIDER_".toList <+: (d.key ++ ending).toList := by
  obtain ⟨more, hmore⟩ : ∃ more, ending.toList = '_' :: more := by
    simp only [endings, List.mem_cons, List.not_mem_nil, or_false] at hending
    rcases hending with rfl | rfl | rfl | rfl <;> exact ⟨_, rfl⟩
  rw [String.toList_append, hmore]
  intro hstart
  have hkey : d.key.toList <+: d.key.toList ++ '_' :: more := List.prefix_append _ _
  by_cases hlong : "PROVIDER_".toList.length ≤ d.key.toList.length
  · exact h.key.2 (List.prefix_of_prefix_length_le hstart hkey hlong)
  -- the underscore behind the key is the one of the beginning
  obtain ⟨left, hleft⟩ := List.prefix_of_prefix_length_le hkey hstart (by omega)
  have hnext : "PROVIDER_".toList[d.key.toList.length]? = some '_' := by
    rw [← hleft] at hstart hlong ⊢
    cases left with
    | nil => simp at hlong
    | cons c left =>
        obtain ⟨rfl, -⟩ := List.cons_prefix_cons.mp ((List.prefix_append_right_inj _).mp hstart)
        simp
  have honly : ∀ n < 9, "PROVIDER_".toList[n]? = some '_' → n = 8 := by decide +kernel
  have hlength : d.key.toList.length = 8 := honly _ (Nat.lt_of_not_le hlong) hnext
  refine h.key.1 (String.toList_inj.mp ?_)
  have htake := congrArg (List.take d.key.toList.length) hleft
  rw [List.take_left, hlength] at htake
  exact htake

end Declaration

end UrlSigning.Provider
