import UrlSigning.Proofs.Provider.Load

/-!
# Where providers come from

Whatever the variables of a process and its files hold, providers that are loaded are sound, and
there is one. If a variable declares a provider, the names of such variables are the keys, and the
files do not matter: whether there is one at the path, and what is in it, changes neither the
providers nor the fault.
-/

namespace UrlSigning.Provider

/-- What can be relied on when a provider was loaded under a key. -/
structure IsSound (key : String) (p : Provider) : Prop where
  key_eq : p.key = key
  enabled : p.enabled = .bool true
  expires : 1 ≤ p.expires ∧ p.expires ≤ 604800
  style : p.style = .text "path" ∨ p.style = .text "virtual"

/-- The names that begin the way in which a declaration begins. -/
def declaringNames (env : Environment) : List String :=
  (Entries.keys env).filter fun name => "PROVIDER_".toList.isPrefixOf name.toList

section

variable {env : Environment} {t : Files.Tree} {path : String}
  {providers : Entries String Provider}

theorem IsChecked.isSound {key : String} {p : Provider} (h : IsChecked key p) : IsSound key p where
  key_eq := h.key_eq
  enabled := h.enabled_eq
  expires := h.expires_range
  style := h.style_eq

/-- A name declares a provider just when it begins that way. -/
theorem isSome_declaredKey? (name : String) :
    (declaredKey? name).isSome = "PROVIDER_".toList.isPrefixOf name.toList := by
  unfold declaredKey?
  dsimp only [declarationStart]
  split
  · next h => rw [h, Option.isSome_some]
  · next h => rw [Option.isSome_none, Bool.eq_false_iff.mpr h]

theorem declaringNames_eq (env : Environment) :
    declaringNames env = (Entries.keys env).filter fun name => (declaredKey? name).isSome := by
  simp only [declaringNames, isSome_declaredKey?]

/-- The declared keys, put after the start of a declaration, are the names that declare them. -/
theorem map_filterMap_declaredKey? (names : List String) :
    (names.filterMap declaredKey?).map (declarationStart ++ ·) =
      names.filter fun name => (declaredKey? name).isSome := by
  induction names with
  | nil => rfl
  | cons name names ih =>
      rcases hkey : declaredKey? name with _ | key
      · rw [List.filterMap_cons_none hkey, List.filter_cons_of_neg (by simp [hkey]), ih]
      · rw [List.filterMap_cons_some hkey, List.map_cons, List.filter_cons_of_pos (by simp [hkey]),
          ih, declaredKey?_eq_some_iff.mp hkey]

theorem isDeclared_iff : isDeclared env = true ↔ declaringNames env ≠ [] := by
  rw [declaringNames_eq, isDeclared]
  constructor
  · intro h
    obtain ⟨v, hv, hname⟩ := List.any_eq_true.mp h
    exact List.ne_nil_of_mem (List.mem_filter.mpr ⟨List.mem_map_of_mem hv, hname⟩)
  · intro h
    obtain ⟨name, hname⟩ := List.exists_mem_of_ne_nil _ h
    obtain ⟨hmem, hname⟩ := List.mem_filter.mp hname
    obtain ⟨v, hv, rfl⟩ := List.mem_map.mp hmem
    exact List.any_eq_true.mpr ⟨v, hv, hname⟩

/-- When the environment declares a provider, no file is looked at. -/
theorem load_of_isDeclared (h : isDeclared env = true) (t : Files.Tree) (path : String) :
    load env t path = loadEnvironment env >>= fun providers =>
      if providers.isEmpty then throw .noProviders else return providers := by
  unfold load loadSource
  rw [if_pos h]
  rfl

theorem keys_load_of_isDeclared (hdeclared : isDeclared env = true)
    (h : load env t path = .ok providers) :
    (Entries.keys providers).map (declarationStart ++ ·) = declaringNames env := by
  rw [load_of_isDeclared hdeclared] at h
  obtain ⟨loaded, hloaded, h⟩ := bind_eq_ok.mp h
  split at h
  · cases h
  · cases h
    rw [keys_loadEnvironment hloaded, map_filterMap_declaredKey?, declaringNames_eq]

end

/-- Providers that are loaded are sound, and there is one; their keys are distinct if the names of
the variables are. If the name of some variable begins the way in which a declaration begins, the
keys, put after that beginning, are the names that begin so, in order, and all files are as good as
any: the providers or the fault are the same with all of them, and wherever they are looked for. -/
theorem loaded_providers_sound (env : Environment) (t : Files.Tree) (path : String) :
    (∀ providers, load env t path = .ok providers →
      providers ≠ [] ∧ ((Entries.keys env).Nodup → (Entries.keys providers).Nodup) ∧
        ∀ e ∈ providers, IsSound e.1 e.2) ∧
    (declaringNames env ≠ [] →
      (∀ providers, load env t path = .ok providers →
        (Entries.keys providers).map ("PROVIDER_" ++ ·) = declaringNames env) ∧
      ∀ t' path', load env t' path' = load env t path) := by
  constructor
  · intro providers h
    refine ⟨ne_nil_of_load h, fun henv => nodup_keys_load henv h, fun e he => ?_⟩
    exact (isChecked_of_load h he).isSound
  · intro hnames
    have hdeclared := isDeclared_iff.mpr hnames
    refine ⟨fun providers h => keys_load_of_isDeclared hdeclared h, fun t' path' => ?_⟩
    rw [load_of_isDeclared hdeclared, load_of_isDeclared hdeclared]

/-- Two providers of the environment, the second of them with a style and an expiry of its own. -/
def Sample.twoStores : Environment :=
  [("PATH", "/usr/bin"), ("PROVIDER_B2", "Backblaze B2|https://s3.example.com|us-west-000|virtual"),
    ("B2_ACCESS_KEY", "AKIDEXAMPLE"), ("B2_SECRET_KEY", "wJalrXUtnFEMI"), ("B2_BUCKET", "backup"),
    ("PROVIDER_", "Nameless|https://s3.example.net|eu|path"), ("_ACCESS_KEY", "AK"),
    ("_SECRET_KEY", "SK"), ("_BUCKET", "attic"), ("_PRESIGN_EXPIRES", " 1_0 ")]

/-- The environment is enough, whatever stands in the file. -/
theorem loaded_providers_sound_twoStores :
    ∃ providers, load Sample.twoStores {} "config.json" = .ok providers ∧
      (Entries.keys providers).map ("PROVIDER_" ++ ·) = ["PROVIDER_B2", "PROVIDER_"] ∧
      (∀ e ∈ providers, IsSound e.1 e.2) ∧
      load Sample.twoStores (.ofNodes [("config.json", .file [0xFF])]) "config.json" =
        .ok providers := by
  obtain ⟨providers, h⟩ : ∃ providers, load Sample.twoStores {} "config.json" = .ok providers :=
    ⟨_, rfl⟩
  obtain ⟨hsound, hsource⟩ := loaded_providers_sound Sample.twoStores {} "config.json"
  have hnames : declaringNames Sample.twoStores = ["PROVIDER_B2", "PROVIDER_"] := by decide +kernel
  obtain ⟨hkeys, hfiles⟩ := hsource (by rw [hnames]; exact List.cons_ne_nil _ _)
  exact ⟨providers, h, (hkeys providers h).trans hnames, (hsound providers h).2.2,
    (hfiles _ _).trans h⟩

end UrlSigning.Provider
