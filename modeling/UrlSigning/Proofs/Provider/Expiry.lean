import UrlSigning.Proofs.Decimal.Value
import UrlSigning.Proofs.Provider.Malformed
import UrlSigning.Proofs.Text.Spelling

/-!
# Configured expiries

The expiry of a provider is a number of the file, or a text that spells a whole one. It is accepted
from one second to a week. A number with a fraction is not refused: it is rounded down, so that the
provider has another expiry than the file says. Every other value is accepted as it is, or not at
all.
-/

namespace UrlSigning.Provider

/-- The value of an expiry. A number is its own, and a truth value counts as one; a text has the
value that it spells. -/
inductive HasValue : Json → ℚ → Prop
  | bool (b : Bool) : HasValue (.bool b) (if b then 1 else 0)
  | int (n : Int) : HasValue (.int n) n
  | real {x : Binary64} {q : ℚ} (h : x.HasValue q) : HasValue (.real x) q
  | text {s : String} {n : Int} (h : Text.Spells s.toList n) : HasValue (.text s) n

/-- The value is taken for so many seconds, from one to a week: it is rounded down. -/
def IsTakenFor (value : Json) (seconds : Int) : Prop :=
  (1 ≤ seconds ∧ seconds ≤ mostSeconds) ∧ ∃ q, HasValue value q ∧ ⌊q⌋ = seconds

section

variable {source : String} {value : Json} {n : Int}

theorem wholeNumber_eq_ok_iff (hn : 1 ≤ n) :
    wholeNumber source value = .ok n ↔ ∃ q, HasValue value q ∧ ⌊q⌋ = n := by
  match value with
  | .null | .array items | .object fields =>
      constructor
      · rintro ⟨⟩
      · rintro ⟨q, ⟨⟩, -⟩
  | .bool b =>
      rw [wholeNumber, Except.ok.injEq]
      have hfloor : ⌊(if b then 1 else 0 : ℚ)⌋ = if b then 1 else 0 := by
        cases b <;> simp
      constructor
      · intro h
        exact ⟨_, .bool b, hfloor.trans h⟩
      · rintro ⟨_, ⟨⟩, h⟩
        exact hfloor.symm.trans h
  | .int m =>
      rw [wholeNumber, Except.ok.injEq]
      constructor
      · rintro rfl
        exact ⟨m, .int m, Int.floor_intCast m⟩
      · rintro ⟨_, ⟨⟩, h⟩
        exact (Int.floor_intCast m).symm.trans h
  | .real x =>
      have hvalue : (∃ q, HasValue (.real x) q ∧ ⌊q⌋ = n) ↔ ∃ q, x.HasValue q ∧ ⌊q⌋ = n := by
        constructor
        · rintro ⟨q, hvalue, h⟩
          cases hvalue with
          | real hq => exact ⟨q, hq, h⟩
        · rintro ⟨q, hq, h⟩
          exact ⟨q, .real hq, h⟩
      rw [hvalue, ← Binary64.truncate?_eq_some_iff hn]
      cases x with
      | infinite negative => simp [wholeNumber, Binary64.truncate?]
      | _ => simp [wholeNumber, Binary64.truncate?]
  | .text s =>
      have hread : wholeNumber source (.text s) = .ok n ↔ Text.readInteger? s = some n := by
        rw [wholeNumber]
        cases Text.readInteger? s <;> simp
      rw [hread, Text.readInteger?_eq_some_iff]
      constructor
      · intro h
        exact ⟨n, .text h, Int.floor_intCast n⟩
      · rintro ⟨q, hvalue, h⟩
        cases hvalue with
        | text hspells =>
            rw [Int.floor_intCast] at h
            exact h ▸ hspells

theorem checkExpiry_eq_ok_iff : checkExpiry source value = .ok n ↔ IsTakenFor value n := by
  unfold checkExpiry
  rw [bind_eq_ok]
  constructor
  · rintro ⟨m, hm, h⟩
    split at h
    · next hrange =>
        cases h
        exact ⟨hrange, (wholeNumber_eq_ok_iff hrange.1).mp hm⟩
    · cases h
  · rintro ⟨hrange, hvalue⟩
    exact ⟨n, (wholeNumber_eq_ok_iff hrange.1).mpr hvalue, if_pos hrange⟩

/-- Only a number with a fraction is taken for something else than its value. -/
theorem IsTakenFor.value_or_fraction (h : IsTakenFor value n) :
    HasValue value n ∨ ∃ x q, value = .real x ∧ x.HasValue q ∧ (n : ℚ) < q ∧ q < n + 1 := by
  obtain ⟨-, q, hq, rfl⟩ := h
  rcases eq_or_lt_of_le (Int.floor_le q) with heq | hlt
  · exact .inl (heq ▸ hq)
  · cases hq with
    | bool b => cases b <;> simp at hlt
    | int m => simp at hlt
    | real hx => exact .inr ⟨_, q, rfl, hx, hlt, Int.lt_floor_add_one q⟩
    | text hs => simp at hlt

end

/-! ## Entries and files -/

/-- The entry is switched on and has all that a provider must have, with a style that there is. -/
structure IsComplete (fields : Entries String Json) : Prop where
  on : ((fields.get? "enabled").getD (.bool true)).isGiven = true
  complete : ∀ name ∈ requiredFields, fields.has name = true
  style : ∃ s ∈ styles, (fields.get? "addressing_style").getD "path" = .text s

section

variable {key : String} {fields : Entries String Json} {value : Json} {p : Provider}

/-- The provider of a complete entry with its expiry. -/
def providerOf (key : String) (fields : Entries String Json) (expires : Int) : Provider :=
  let field (name : String) : Json := (fields.get? name).getD .null
  { key := key
    name := field "provider_name"
    endpoint := field "endpoint_url"
    access := field "aws_access_key_id"
    secret := field "aws_secret_access_key"
    region := field "region_name"
    bucket := field "bucket_name"
    style := (fields.get? "addressing_style").getD "path"
    expires := expires }

/-- Whether a complete entry is loaded is a matter of its expiry. -/
theorem ofEntry_eq_map (key : String) (hfields : IsComplete fields)
    (hvalue : fields.get? "presign_expires_seconds" = some value) :
    ofEntry key (.object fields) =
      (fun n => some (providerOf key fields n)) <$> checkExpiry s!"provider '{key}'" value := by
  obtain ⟨s, hs, hstyle⟩ := hfields.style
  rw [ofEntry_of_complete key hfields.on hfields.complete, ofFields]
  dsimp only [Json.field?]
  rw [checkStyle_eq_ok_iff.mpr ⟨s, hs, hstyle, rfl⟩, hvalue, Option.getD_some]
  cases checkExpiry s!"provider '{key}'" value <;> rfl

theorem mem_ofDocument_iff {entries : Entries String Json} {providers : Entries String Provider}
    (h : ofDocument (.object entries) = .ok providers) :
    (key, p) ∈ providers ↔
      ∃ entry, (key, entry) ∈ entries ∧ ofEntry key entry = .ok (some p) := by
  rw [ofDocument_object] at h
  obtain ⟨loaded, hloaded, rfl⟩ := map_eq_ok.mp h
  rw [List.mem_filterMap]
  constructor
  · rintro ⟨found, hfound, rfl⟩
    obtain ⟨⟨key', entry⟩, he, hload⟩ := exists_of_mem_mapM hloaded hfound
    obtain ⟨q, hq, hsome⟩ := map_eq_ok.mp hload
    obtain ⟨p, rfl, hp⟩ := Option.map_eq_some_iff.mp hsome
    cases hp
    exact ⟨entry, he, hq⟩
  · rintro ⟨entry, he, hentry⟩
    obtain ⟨found, hfound, hload⟩ := exists_mem_of_mapM hloaded he
    refine ⟨found, hfound, ?_⟩
    have hsome : loadEntry (key, entry) = .ok (some (key, p)) := map_eq_ok.mpr ⟨_, hentry, rfl⟩
    exact (Except.ok.inj (hsome.symm.trans hload)).symm

section

variable {entries : Entries String Json} {entry : Json}

/-- There is one entry under a key. -/
theorem eq_of_mem_of_nodup {other : Json} (hnodup : (Entries.keys entries).Nodup)
    (hentry : (key, entry) ∈ entries) (hother : (key, other) ∈ entries) : other = entry := by
  have hfound := Entries.get?_of_mem_of_nodup hother hnodup
  rw [Entries.get?_of_mem_of_nodup hentry hnodup] at hfound
  exact (Option.some.inj hfound).symm

/-- If the other entries can be loaded, a provider comes of an entry of the file just when it comes
of the entry by itself. -/
theorem exists_mem_ofDocument_iff {P : Provider → Prop} (hnodup : (Entries.keys entries).Nodup)
    (hentry : (key, entry) ∈ entries)
    (hothers : ∀ e ∈ entries, e.1 ≠ key → ∃ p, ofEntry e.1 e.2 = .ok p) :
    (∃ providers p, ofDocument (.object entries) = .ok providers ∧ (key, p) ∈ providers ∧ P p) ↔
      ∃ p, ofEntry key entry = .ok (some p) ∧ P p := by
  constructor
  · rintro ⟨providers, p, hproviders, hp, h⟩
    obtain ⟨other, hother, hloaded⟩ := (mem_ofDocument_iff hproviders).mp hp
    cases eq_of_mem_of_nodup hnodup hentry hother
    exact ⟨p, hloaded, h⟩
  · rintro ⟨p, hloaded, h⟩
    have hall : ∀ e ∈ entries, ∃ found, loadEntry e = .ok found := by
      rintro ⟨name, other⟩ he
      rw [exists_loadEntry_eq_ok_iff]
      by_cases hname : name = key
      · cases hname
        cases eq_of_mem_of_nodup hnodup hentry he
        exact ⟨_, hloaded⟩
      · exact hothers _ he hname
    obtain ⟨found, hfound⟩ := exists_mapM_eq_ok hall
    have hproviders : ofDocument (.object entries) = .ok (found.filterMap id) := by
      rw [ofDocument_object, hfound]
      rfl
    exact ⟨_, p, hproviders, (mem_ofDocument_iff hproviders).mpr ⟨_, hentry, hloaded⟩, h⟩

/-- If the other entries can be loaded, the file is refused as the entry is. -/
theorem ofDocument_eq_error {fault : LoadFault} (hnodup : (Entries.keys entries).Nodup)
    (hentry : (key, entry) ∈ entries)
    (hothers : ∀ e ∈ entries, e.1 ≠ key → ∃ p, ofEntry e.1 e.2 = .ok p)
    (hrefused : ofEntry key entry = .error fault) :
    ofDocument (.object entries) = .error fault := by
  obtain ⟨before, after, rfl⟩ := List.append_of_mem hentry
  refine ofDocument_eq_error_iff.mpr (.inr ⟨before, key, entry, after, rfl, ?_, hrefused⟩)
  intro e he
  refine hothers e (List.mem_append_left _ he) ?_
  rintro rfl
  rw [Entries.keys, List.map_append, List.nodup_append] at hnodup
  exact hnodup.2.2 _ (List.mem_map_of_mem he) _ List.mem_cons_self rfl

end

/-- In a file whose other entries can be loaded, a complete entry is accepted for just those seconds
that its expiry is taken for: the value of the expiry, or that of a number with a fraction rounded
down. If there are none, the file is refused, with a fault of the configuration unless the expiry is
infinite. -/
theorem configured_expiry_rounded_down {t : Files.Tree} {path : String} {content : Bytes}
    {entries : Entries String Json} (hcontent : t.read (.ofText path) = .ok content)
    (hdocument : readDocument content = .ok (.object entries))
    (hentry : (key, .object fields) ∈ entries)
    (hothers : ∀ e ∈ entries, e.1 ≠ key → ∃ p, ofEntry e.1 e.2 = .ok p)
    (hfields : IsComplete fields)
    (hvalue : fields.get? "presign_expires_seconds" = some value) :
    (∀ n, (∃ providers p, loadFile t path = .ok providers ∧ (key, p) ∈ providers ∧ p.expires = n) ↔
      IsTakenFor value n) ∧
    (∀ n, IsTakenFor value n →
      HasValue value n ∨ ∃ x q, value = .real x ∧ x.HasValue q ∧ (n : ℚ) < q ∧ q < n + 1) ∧
    ((∀ n, ¬IsTakenFor value n) → ∃ fault, loadFile t path = .error fault ∧
      (fault.isConfig = false ↔ ∃ negative, value = .real (.infinite negative))) := by
  have hnodup : (Entries.keys entries).Nodup := by
    obtain ⟨cs, -, hread⟩ := bind_eq_ok.mp hdocument
    exact Json.nodup_of_read (mapError_eq_ok.mp hread)
  have hload : loadFile t path = ofDocument (.object entries) := by
    rw [loadFile_of_read hcontent, hdocument]
    rfl
  have hmap := ofEntry_eq_map key hfields hvalue
  rw [hload]
  refine ⟨fun n => ?_, fun n => IsTakenFor.value_or_fraction, fun h => ?_⟩
  · rw [exists_mem_ofDocument_iff hnodup hentry hothers, hmap]
    constructor
    · rintro ⟨p, hp, rfl⟩
      obtain ⟨m, hm, hsome⟩ := map_eq_ok.mp hp
      cases hsome
      exact checkExpiry_eq_ok_iff.mp hm
    · intro h
      exact ⟨_, map_eq_ok.mpr ⟨n, checkExpiry_eq_ok_iff.mpr h, rfl⟩, rfl⟩
  · obtain ⟨fault, hfault⟩ : ∃ fault, checkExpiry s!"provider '{key}'" value = .error fault := by
      rcases hcheck : checkExpiry s!"provider '{key}'" value with fault | n
      · exact ⟨fault, rfl⟩
      · exact absurd (checkExpiry_eq_ok_iff.mp hcheck) (h n)
    have hrefused : ofEntry key (.object fields) = .error fault :=
      hmap.trans (map_eq_error.mpr hfault)
    exact ⟨fault, ofDocument_eq_error hnodup hentry hothers hrefused, isConfig_of_checkExpiry hfault⟩

/-- A provider that lacks nothing, with an expiry. -/
def Sample.lasting (expiry : Json) : Entries String Json :=
  [("provider_name", "Main"), ("endpoint_url", "https://s3.example.com"),
    ("aws_access_key_id", "AKIDEXAMPLE"), ("aws_secret_access_key", "wJalrXUtnFEMI"),
    ("region_name", "us-east-1"), ("bucket_name", "bucket"), ("presign_expires_seconds", expiry)]

theorem isComplete_lasting (expiry : Json) : IsComplete (Sample.lasting expiry) where
  on := by simp [Sample.lasting, Entries.get?, Json.isGiven]
  complete _ hname :=
    Entries.has_iff.mpr (List.mem_append_left ["presign_expires_seconds"] hname)
  style := ⟨"path", by simp [styles], by simp [Sample.lasting, Entries.get?]⟩

/-- The file with this provider only. -/
def Sample.lastingFile (expiry : Json) : Bytes :=
  Text.Utf8.ofString (Json.object [("main", .object (Sample.lasting expiry))]).line

theorem configured_expiry_rounded_down_spelled :
    IsTakenFor (.text " +1_0\n") 10 ∧
    ∃ providers p, loadFile (Sample.configured (Sample.lastingFile (.text " +1_0\n")))
      "config.json" = .ok providers ∧ ("main", p) ∈ providers ∧ p.expires = 10 := by
  have hspells : Text.Spells " +1_0\n".toList 10 :=
    (Text.readInteger?_eq_some_iff _).mp (by decide +kernel)
  have htaken : IsTakenFor (.text " +1_0\n") 10 :=
    ⟨by decide, 10, .text hspells, Int.floor_intCast 10⟩
  have hlegible : Json.IsLegible 989 (.object (Sample.lasting (.text " +1_0\n"))) := by
    refine .object (by decide) ?_
    simp only [Sample.lasting, List.forall_mem_cons]
    exact ⟨.text _, .text _, .text _, .text _, .text _, .text _, .text _, List.forall_mem_nil _⟩
  have hentries : ∀ e ∈ [("main", Json.object (Sample.lasting (.text " +1_0\n")))],
      Json.IsLegible 989 e.2 :=
    List.forall_mem_singleton.mpr hlegible
  have hdocument := (readDocument_written (.object (by decide) hentries)).1
  have hfile := configured_expiry_rounded_down (read_configured _) hdocument
    List.mem_cons_self (by simp) (isComplete_lasting _) rfl
  exact ⟨htaken, (hfile.1 10).mpr htaken⟩

/-- Half a second more than an hour. -/
def Sample.halfPast : Binary64 := .finite false 7917583231614976 (-41)

theorem readDocument_halfPast :
    readDocument (Sample.lastingFile (.real Sample.halfPast)) =
      .ok (.object [("main", .object (Sample.lasting (.real Sample.halfPast)))]) := by
  have hlegible {v : Json} (h : Json.IsLegible 988 v) :
      Json.ReadsBack (Json.readValue 988) Json.compact 2 v :=
    Json.readsBack_write Json.isSpaced_compact h 2
  have hexpiry : Json.ReadsBack (Json.readValue 988) Json.compact 2 (.real Sample.halfPast) :=
    Json.readsBack_real (by decide +kernel :
      (Decimal.text Json.numberNames Sample.halfPast).toList = Nat.toDigits 10 3600 ++ '.' :: ['5'])
      (by simp) (by simp) (by decide +kernel)
  have hentry : Json.ReadsBack (Json.readValue 989) Json.compact 1
      (.object (Sample.lasting (.real Sample.halfPast))) := by
    refine Json.readsBack_object Json.isSpaced_compact (by decide) ?_
    simp only [Sample.lasting, List.forall_mem_cons]
    exact ⟨hlegible (.text _), hlegible (.text _), hlegible (.text _), hlegible (.text _),
      hlegible (.text _), hlegible (.text _), hexpiry, List.forall_mem_nil _⟩
  have hentries : ∀ e ∈ [("main", Json.object (Sample.lasting (.real Sample.halfPast)))],
      Json.ReadsBack (Json.readValue 989) Json.compact 1 e.2 :=
    List.forall_mem_singleton.mpr hentry
  have hdocument := Json.readDocument_of_readsBack
    (Json.readsBack_object Json.isSpaced_compact (by decide) hentries)
  have hplain : (Json.write Json.compact 0
      (.object [("main", .object (Sample.lasting (.real Sample.halfPast)))])).all (· != '\r') =
      true := by
    decide +kernel
  have hreturn : '\r' ∉
      (Json.object [("main", .object (Sample.lasting (.real Sample.halfPast)))]).line.toList := by
    rw [Json.line, String.toList_ofList]
    intro h
    exact absurd (List.all_eq_true.mp hplain _ h) (by decide)
  rw [Sample.lastingFile, readDocument_ofString hreturn, Json.read, Json.line,
    String.toList_ofList, hdocument]
  rfl

/-- Half a second is lost without any fault. -/
theorem expiry_loses_fraction :
    (Json.real Sample.halfPast).shown = "3600.5" ∧ Sample.halfPast.HasValue (7201 / 2) ∧
    ∃ p, loadFile (Sample.configured (Sample.lastingFile (.real Sample.halfPast))) "config.json" =
      .ok [("main", p)] ∧ p.expires = 3600 := by
  refine ⟨by decide +kernel, ?_,
    providerOf "main" (Sample.lasting (.real Sample.halfPast)) 3600, ?_, rfl⟩
  · have hvalue : Binary64.magnitude 7917583231614976 (-41) = 7201 / 2 := by
      norm_num [Binary64.magnitude]
    exact hvalue ▸ .positive _ _
  · rw [loadFile_of_read (read_configured _), readDocument_halfPast]
    rfl

end

end UrlSigning.Provider
