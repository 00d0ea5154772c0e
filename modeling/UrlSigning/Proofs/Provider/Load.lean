import Mathlib.Data.List.Forall2
import Mathlib.Data.List.Nodup
import UrlSigning.Proofs.Checked
import UrlSigning.Proofs.Entries
import UrlSigning.Provider.Load

/-!
# Loaded providers

Whatever source a provider is loaded from, it went through one check of its fields, under the key
that it is kept under. No two providers have one key: an object that was read has distinct fields,
and variables with distinct names declare distinct keys.
-/

namespace UrlSigning

/-! ## Objects that were read -/

namespace Json

theorem readNumber_ne_object {cs rest : List Char} {fields : List (String × Json)} :
    readNumber cs ≠ .ok (.object fields, rest) := by
  intro h
  unfold readNumber at h
  dsimp only at h
  repeat' split at h
  all_goals cases h

theorem readScalar_ne_object {cs rest : List Char} {fields : List (String × Json)} :
    readScalar cs ≠ .ok (.object fields, rest) := by
  intro h
  unfold readScalar at h
  split at h
  · obtain ⟨⟨s, left⟩, -, h⟩ := bind_eq_ok.mp h
    cases h
  · split at h
    · next found hfound =>
        cases h
        obtain ⟨⟨name, v⟩, hv, hfound⟩ := List.exists_of_findSome?_eq_some hfound
        have hnames : ∀ n ∈ names, ∀ fields, n.2 ≠ .object fields := by
          simp [names]
        dsimp only at hfound
        split at hfound
        · cases hfound
          exact hnames _ hv _ rfl
        · cases hfound
    · exact readNumber_ne_object h

/-- No field of an object that was read comes twice. -/
theorem nodup_of_readValue {depth : Nat} {cs rest : List Char} {fields : List (String × Json)}
    (h : readValue depth cs = .ok (.object fields, rest)) : (Entries.keys fields).Nodup := by
  unfold readValue at h
  split at h
  · cases h
  · cases h
  · split at h
    · cases h
    · obtain ⟨⟨items, left⟩, -, h⟩ := bind_eq_ok.mp h
      cases h
  · split at h
    · cases h
      exact List.nodup_nil
    · obtain ⟨⟨read, left⟩, -, h⟩ := bind_eq_ok.mp h
      cases h
      exact Entries.nodup_keys_ofPairs read
  · exact absurd h readScalar_ne_object

theorem nodup_of_read {s : String} {fields : List (String × Json)}
    (h : read s = .ok (.object fields)) : (Entries.keys fields).Nodup := by
  have h := mapError_eq_ok.mp h
  unfold readDocument at h
  split at h
  · cases h
  · obtain ⟨⟨v, left⟩, hv, h⟩ := bind_eq_ok.mp h
    dsimp only at h
    split at h
    · cases h
      exact nodup_of_readValue hv
    · cases h

end Json

namespace Provider

/-! ## The check of a provider -/

/-- The provider was made of the fields of a declaration. -/
def IsChecked (key : String) (p : Provider) : Prop :=
  ∃ fields styleSource expirySource, ofFields key fields styleSource expirySource = .ok p

section

variable {key : String} {p : Provider}

theorem isChecked_of_ofEntry {entry : Json} (h : ofEntry key entry = .ok (some p)) :
    IsChecked key p := by
  unfold ofEntry at h
  split at h
  · split at h
    · cases h
    · split at h
      · cases h
      · dsimp only at h
        obtain ⟨q, hq, h⟩ := map_eq_ok.mp h
        cases h
        exact ⟨_, _, _, hq⟩
  · cases h

theorem isChecked_of_ofDocument {document : Json} {providers : Entries String Provider}
    (h : ofDocument document = .ok providers) (hmem : (key, p) ∈ providers) : IsChecked key p := by
  unfold ofDocument at h
  split at h
  · obtain ⟨loaded, hloaded, h⟩ := bind_eq_ok.mp h
    cases h
    obtain ⟨e, he, hsome⟩ := List.mem_filterMap.mp hmem
    obtain ⟨entry, -, hentry⟩ := exists_of_mem_mapM hloaded he
    obtain ⟨q, hq, hentry⟩ := bind_eq_ok.mp hentry
    rcases q with _ | q
    · cases hentry
      cases hsome
    · cases hentry
      cases hsome
      exact isChecked_of_ofEntry hq
  · cases h

theorem isChecked_of_loadFile {t : Files.Tree} {path : String}
    {providers : Entries String Provider} (h : loadFile t path = .ok providers)
    (hmem : (key, p) ∈ providers) : IsChecked key p := by
  unfold loadFile at h
  obtain ⟨has, -, h⟩ := bind_eq_ok.mp h
  split at h
  · cases h
  · obtain ⟨content, -, h⟩ := bind_eq_ok.mp h
    obtain ⟨document, -, h⟩ := bind_eq_ok.mp h
    exact isChecked_of_ofDocument h hmem

theorem isChecked_of_ofVariable {env : Environment} {name value : String}
    (h : ofVariable env name key value = .ok p) : IsChecked key p := by
  unfold ofVariable at h
  split at h
  · obtain ⟨secrets, -, h⟩ := bind_eq_ok.mp h
    exact ⟨_, _, _, h⟩
  · cases h

theorem isChecked_of_loadEnvironment {env : Environment} {providers : Entries String Provider}
    (h : loadEnvironment env = .ok providers) (hmem : (key, p) ∈ providers) : IsChecked key p := by
  obtain ⟨v, -, hv⟩ := exists_of_mem_mapM h hmem
  obtain ⟨q, hq, hv⟩ := bind_eq_ok.mp hv
  cases hv
  exact isChecked_of_ofVariable hq

theorem ne_nil_of_load {env : Environment} {t : Files.Tree} {path : String}
    {providers : Entries String Provider} (h : load env t path = .ok providers) :
    providers ≠ [] := by
  obtain ⟨loaded, -, h⟩ := bind_eq_ok.mp h
  split at h
  · cases h
  · next hloaded =>
      cases h
      simpa using hloaded

/-- A provider that is loaded was made of the fields of a declaration under its key. -/
theorem isChecked_of_load {env : Environment} {t : Files.Tree} {path : String}
    {providers : Entries String Provider} (h : load env t path = .ok providers)
    (hmem : (key, p) ∈ providers) : IsChecked key p := by
  obtain ⟨loaded, hloaded, h⟩ := bind_eq_ok.mp h
  split at h
  · cases h
  · cases h
    unfold loadSource at hloaded
    split at hloaded
    · exact isChecked_of_loadEnvironment hloaded hmem
    · obtain ⟨has, -, hloaded⟩ := bind_eq_ok.mp hloaded
      split at hloaded
      · exact isChecked_of_loadFile hloaded hmem
      · cases hloaded
        cases hmem

/-! ## What the check says -/

theorem range_of_checkExpiry {source : String} {value : Json} {seconds : Int}
    (h : checkExpiry source value = .ok seconds) : 1 ≤ seconds ∧ seconds ≤ mostSeconds := by
  unfold checkExpiry at h
  obtain ⟨n, -, h⟩ := bind_eq_ok.mp h
  split at h
  · next hrange =>
      cases h
      exact hrange
  · cases h

theorem IsChecked.key_eq (h : IsChecked key p) : p.key = key := by
  obtain ⟨fields, styleSource, expirySource, h⟩ := h
  obtain ⟨style, -, h⟩ := bind_eq_ok.mp h
  obtain ⟨expires, -, h⟩ := bind_eq_ok.mp h
  cases h
  rfl

theorem checkStyle_eq_ok_iff {source : String} {value style : Json} :
    checkStyle source value = .ok style ↔ ∃ s ∈ styles, value = .text s ∧ style = value := by
  unfold checkStyle
  split
  · next s =>
      by_cases hs : s ∈ styles
      · rw [if_pos (List.contains_iff_mem.mpr hs)]
        constructor
        · rintro ⟨⟩
          exact ⟨s, hs, rfl, rfl⟩
        · rintro ⟨_, -, -, rfl⟩
          rfl
      · rw [if_neg (by simpa using hs)]
        constructor
        · rintro ⟨⟩
        · rintro ⟨_, hmem, ⟨⟩, -⟩
          exact absurd hmem hs
  · next hvalue =>
      constructor
      · rintro ⟨⟩
      · rintro ⟨s, -, rfl, -⟩
        exact absurd rfl (hvalue s)

theorem eq_of_checkStyle {source : String} {value style : Json}
    (h : checkStyle source value = .ok style) : style = .text "path" ∨ style = .text "virtual" := by
  obtain ⟨s, hs, rfl, rfl⟩ := checkStyle_eq_ok_iff.mp h
  simpa [styles, hostStyle] using hs

theorem IsChecked.style_eq (h : IsChecked key p) :
    p.style = .text "path" ∨ p.style = .text "virtual" := by
  obtain ⟨fields, styleSource, expirySource, h⟩ := h
  obtain ⟨style, hstyle, h⟩ := bind_eq_ok.mp h
  obtain ⟨expires, -, h⟩ := bind_eq_ok.mp h
  cases h
  exact eq_of_checkStyle hstyle

theorem IsChecked.enabled_eq (h : IsChecked key p) : p.enabled = .bool true := by
  obtain ⟨fields, styleSource, expirySource, h⟩ := h
  obtain ⟨style, -, h⟩ := bind_eq_ok.mp h
  obtain ⟨expires, -, h⟩ := bind_eq_ok.mp h
  cases h
  rfl

/-- The expiry of a checked provider is from one second to a week. -/
theorem IsChecked.expires_range (h : IsChecked key p) :
    1 ≤ p.expires ∧ p.expires ≤ mostSeconds := by
  obtain ⟨fields, styleSource, expirySource, h⟩ := h
  obtain ⟨style, -, h⟩ := bind_eq_ok.mp h
  obtain ⟨expires, hexpires, h⟩ := bind_eq_ok.mp h
  cases h
  exact range_of_checkExpiry hexpires

end

/-! ## Entries of a document -/

/-- An entry that is switched on and complete is checked field by field. -/
theorem ofEntry_of_complete {fields : Entries String Json} (key : String)
    (hon : ((fields.get? "enabled").getD (.bool true)).isGiven = true)
    (hcomplete : ∀ name ∈ requiredFields, fields.has name = true) :
    ofEntry key (.object fields) =
      some <$> ofFields key (.object fields) s!"provider '{key}'" s!"provider '{key}'" := by
  have hnone : requiredFields.find? (!fields.has ·) = none := by
    rw [List.find?_eq_none]
    intro name hname
    simp [hcomplete name hname]
  unfold ofEntry
  dsimp only
  split
  · next hoff =>
      have hoff : (!((fields.get? "enabled").getD (.bool true)).isGiven) = true := hoff
      rw [hon] at hoff
      cases hoff
  · rw [hnone]

/-- The provider of an entry under the entry's key. -/
def loadEntry (e : String × Json) : Except LoadFault (Option (String × Provider)) :=
  Option.map (fun p => (e.1, p)) <$> ofEntry e.1 e.2

theorem ofDocument_object (entries : Entries String Json) :
    ofDocument (.object entries) = (·.filterMap id) <$> entries.mapM loadEntry :=
  rfl

theorem exists_loadEntry_eq_ok_iff {e : String × Json} :
    (∃ p, loadEntry e = .ok p) ↔ ∃ p, ofEntry e.1 e.2 = .ok p := by
  simp [loadEntry, map_eq_ok]

theorem loadEntry_eq_error_iff {e : String × Json} {fault : LoadFault} :
    loadEntry e = .error fault ↔ ofEntry e.1 e.2 = .error fault :=
  map_eq_error

/-! ## The keys of providers -/

/-- A list is mapped without failing just when its members are mapped, one by one. -/
theorem mapM_eq_ok_iff {ε α β : Type} {f : α → Except ε β} {xs : List α} {ys : List β} :
    xs.mapM f = .ok ys ↔ List.Forall₂ (fun x y => f x = .ok y) xs ys := by
  constructor
  · intro h
    induction xs generalizing ys with
    | nil =>
        cases h
        exact .nil
    | cons x xs ih =>
        rw [List.mapM_cons, bind_eq_ok] at h
        obtain ⟨y, hy, h⟩ := h
        obtain ⟨rest, hrest, h⟩ := bind_eq_ok.mp h
        cases h
        exact .cons hy (ih hrest)
  · intro h
    induction h with
    | nil => rfl
    | cons hx hrest ih =>
        rw [List.mapM_cons]
        exact bind_eq_ok.mpr ⟨_, hx, bind_eq_ok.mpr ⟨_, ih, rfl⟩⟩

theorem keys_sublist_of_forall₂ {entries : List (String × Json)}
    {loaded : List (Option (String × Provider))}
    (h : List.Forall₂ (fun e p => ∃ q, p = Option.map (fun q => (e.1, q)) q) entries loaded) :
    (Entries.keys (loaded.filterMap id)).Sublist (Entries.keys entries) := by
  induction h with
  | nil => exact List.Sublist.refl _
  | cons hp hrest ih =>
      obtain ⟨_ | q, rfl⟩ := hp
      · exact ih.cons _
      · exact ih.cons_cons _

theorem nodup_keys_ofDocument {document : Json} {providers : Entries String Provider}
    (hdocument : ∀ fields, document = .object fields → (Entries.keys fields).Nodup)
    (h : ofDocument document = .ok providers) : (Entries.keys providers).Nodup := by
  unfold ofDocument at h
  split at h
  · obtain ⟨loaded, hloaded, h⟩ := bind_eq_ok.mp h
    cases h
    refine List.Nodup.sublist (keys_sublist_of_forall₂ ?_) (hdocument _ rfl)
    refine (mapM_eq_ok_iff.mp hloaded).imp fun e p hp => ?_
    obtain ⟨q, -, hp⟩ := bind_eq_ok.mp hp
    cases hp
    exact ⟨q, rfl⟩
  · cases h

/-- A variable declares a provider under what follows the start of its name. -/
theorem declaredKey?_eq_some_iff {name key : String} :
    declaredKey? name = some key ↔ name = declarationStart ++ key := by
  unfold declaredKey?
  dsimp only
  constructor
  · intro h
    split at h
    · next hstart =>
        cases h
        apply String.ext
        rw [String.toList_append, String.toList_ofList]
        exact (List.prefix_iff_eq_append.mp (List.isPrefixOf_iff_prefix.mp hstart)).symm
    · cases h
  · rintro rfl
    rw [String.toList_append, if_pos (List.isPrefixOf_iff_prefix.mpr (List.prefix_append _ _)),
      List.drop_left, String.ofList_toList]

theorem eq_of_declaredKey? {name name' key : String} (h : declaredKey? name = some key)
    (h' : declaredKey? name' = some key) : name = name' :=
  (declaredKey?_eq_some_iff.mp h).trans (declaredKey?_eq_some_iff.mp h').symm

/-- The keys are those that the names of the variables declare, in order. -/
theorem keys_loadEnvironment {env : Environment} {providers : Entries String Provider}
    (h : loadEnvironment env = .ok providers) :
    Entries.keys providers = (Entries.keys env).filterMap declaredKey? := by
  have hdeclared : (env.filterMap fun v => (declaredKey? v.1).map fun key => (key, v)).map (·.1) =
      (Entries.keys env).filterMap declaredKey? := by
    rw [Entries.keys, List.filterMap_map, List.map_filterMap]
    refine List.filterMap_congr fun v _ => ?_
    rw [Option.map_map]
    exact congrFun Option.map_id _
  rw [← hdeclared, Entries.keys, ← List.forall₂_eq_eq_eq, List.forall₂_map_left_iff,
    List.forall₂_map_right_iff]
  refine (mapM_eq_ok_iff.mp h).flip.imp fun e v hp => ?_
  obtain ⟨p, -, hp⟩ := bind_eq_ok.mp hp
  cases hp
  rfl

theorem nodup_keys_loadEnvironment {env : Environment} {providers : Entries String Provider}
    (henv : (Entries.keys env).Nodup) (h : loadEnvironment env = .ok providers) :
    (Entries.keys providers).Nodup := by
  rw [keys_loadEnvironment h]
  exact List.Nodup.filterMap (fun _ _ _ h h' => eq_of_declaredKey? h h') henv

theorem nodup_keys_loadFile {t : Files.Tree} {path : String}
    {providers : Entries String Provider} (h : loadFile t path = .ok providers) :
    (Entries.keys providers).Nodup := by
  unfold loadFile at h
  obtain ⟨has, -, h⟩ := bind_eq_ok.mp h
  split at h
  · cases h
  · obtain ⟨content, -, h⟩ := bind_eq_ok.mp h
    obtain ⟨document, hdocument, h⟩ := bind_eq_ok.mp h
    obtain ⟨cs, -, hdocument⟩ := bind_eq_ok.mp hdocument
    refine nodup_keys_ofDocument (fun fields hfields => ?_) h
    subst hfields
    exact Json.nodup_of_read (mapError_eq_ok.mp hdocument)

/-- Providers that are loaded have distinct keys, as the variables of a process have distinct
names. -/
theorem nodup_keys_load {env : Environment} {t : Files.Tree} {path : String}
    {providers : Entries String Provider} (henv : (Entries.keys env).Nodup)
    (h : load env t path = .ok providers) : (Entries.keys providers).Nodup := by
  obtain ⟨loaded, hloaded, h⟩ := bind_eq_ok.mp h
  split at h
  · cases h
  · cases h
    unfold loadSource at hloaded
    split at hloaded
    · exact nodup_keys_loadEnvironment henv hloaded
    · obtain ⟨has, -, hloaded⟩ := bind_eq_ok.mp hloaded
      split at hloaded
      · exact nodup_keys_loadFile hloaded
      · cases hloaded
        exact List.nodup_nil

end Provider

end UrlSigning
