import Mathlib.Data.List.Nodup
import UrlSigning.Proofs.Provider.Declaration
import UrlSigning.Proofs.Provider.Document

/-!
# Two ways to declare

Good declarations with distinct keys come to the same providers from the variables of a process and
from a file: the variables may be set in any order, as long as the ones that declare come in the
order of the declarations, and the file may hold the fields of a provider in any order.
-/

namespace UrlSigning.Provider

/-- The variables are those of the declarations, and others that have nothing to do with them. The
ones that look like declarations come in order. -/
structure Declares (vars : Environment) (ds : List Declaration) : Prop where
  all : ∃ others : Environment,
    vars.Perm (ds.map Declaration.declaring ++ ds.flatMap Declaration.own ++ others) ∧
      (Entries.keys others).Nodup ∧
      ∀ name ∈ Entries.keys others, ¬"PROVIDER_".toList <+: name.toList ∧
        ∀ d ∈ ds, name ∉ Entries.keys d.own
  order : vars.filter (fun v => "PROVIDER_".toList.isPrefixOf v.1.toList) =
    ds.map Declaration.declaring

/-- The entries are the declarations, in order, with the fields of each of them in any order. -/
def IsWrittenAs (ds : List Declaration) (entries : Entries String Json) : Prop :=
  List.Forall₂ (fun d e => e.1 = d.key ∧ ∃ fields, e.2 = .object fields ∧ fields.Perm d.fields)
    ds entries

/-! ## In variables -/

section

variable {d d' : Declaration} {ds : List Declaration} {vars env : Environment} {name : String}

theorem nodup_keys_own (d : Declaration) : (Entries.keys d.own).Nodup := by
  rw [Declaration.keys_own]
  refine List.Nodup.map (fun e e' h => ?_) (by decide)
  exact (String.append_right_inj _).mp h

theorem key_eq_of_mem_own (h : name ∈ Entries.keys d.own) (h' : name ∈ Entries.keys d'.own) :
    d.key = d'.key := by
  rw [Declaration.keys_own] at h h'
  obtain ⟨ending, hending, rfl⟩ := List.mem_map.mp h
  obtain ⟨ending', hending', heq⟩ := List.mem_map.mp h'
  exact (Declaration.key_eq_of_ending hending' hending heq).1.symm

theorem nodup_keys_declaring (hkeys : (ds.map Declaration.key).Nodup) :
    (Entries.keys (ds.map Declaration.declaring)).Nodup := by
  have hmap : Entries.keys (ds.map Declaration.declaring) =
      (ds.map Declaration.key).map ("PROVIDER_" ++ ·) := by
    rw [Entries.keys, List.map_map, List.map_map]
    rfl
  rw [hmap]
  exact hkeys.map fun _ _ h => (String.append_right_inj _).mp h

theorem keys_flatMap_own (ds : List Declaration) :
    Entries.keys (ds.flatMap Declaration.own) = ds.flatMap fun d => Entries.keys d.own :=
  List.map_flatMap

theorem nodup_keys_flatMap_own (hkeys : (ds.map Declaration.key).Nodup) :
    (Entries.keys (ds.flatMap Declaration.own)).Nodup := by
  rw [keys_flatMap_own, List.nodup_flatMap]
  refine ⟨fun d _ => nodup_keys_own d, (List.pairwise_map.mp hkeys).imp fun hne => ?_⟩
  exact List.disjoint_left.mpr fun name h h' => hne (key_eq_of_mem_own h h')

/-- No two variables of good declarations have the same name. -/
theorem Declares.nodup_keys (h : Declares vars ds) (hgood : ∀ d ∈ ds, d.IsGood)
    (hkeys : (ds.map Declaration.key).Nodup) : (Entries.keys vars).Nodup := by
  obtain ⟨others, hperm, hothers, hapart⟩ := h.all
  have hstart (name : String) (hname : name ∈ Entries.keys (ds.map Declaration.declaring)) :
      "PROVIDER_".toList <+: name.toList := by
    rw [Entries.keys, List.map_map] at hname
    obtain ⟨d, -, rfl⟩ := List.mem_map.mp hname
    exact ⟨d.key.toList, String.toList_append.symm⟩
  have hown (name : String) (hname : name ∈ Entries.keys (ds.flatMap Declaration.own)) :
      ∃ d ∈ ds, name ∈ Entries.keys d.own := by
    rw [keys_flatMap_own] at hname
    exact List.mem_flatMap.mp hname
  rw [Entries.keys, (hperm.map _).nodup_iff, List.map_append, List.map_append]
  refine List.nodup_append.mpr ⟨List.nodup_append.mpr ⟨nodup_keys_declaring hkeys,
    nodup_keys_flatMap_own hkeys, ?_⟩, hothers, ?_⟩
  · rintro name hdeclaring _ hname rfl
    obtain ⟨d, hd, hmem⟩ := hown name hname
    rw [Declaration.keys_own] at hmem
    obtain ⟨ending, hending, rfl⟩ := List.mem_map.mp hmem
    exact (hgood d hd).not_prefix_own hending (hstart _ hdeclaring)
  · rintro name hname _ hother rfl
    obtain ⟨hnot, hfree⟩ := hapart name hother
    rcases List.mem_append.mp hname with hname | hname
    · exact hnot (hstart name hname)
    · obtain ⟨d, hd, hmem⟩ := hown name hname
      exact hfree d hd hmem

theorem requireVariable_eq {value : String} (hget : env.get? name = some value) (hne : value ≠ "") :
    requireVariable env name = .ok value := by
  rw [requireVariable, hget]
  exact if_neg (by simpa using hne)

theorem Declaration.IsGood.cutAll_declaring (h : d.IsGood) :
    (Text.cutAll '|' d.declaring.2.toList).map String.ofList =
      [d.name, d.endpoint, d.region, d.style] := by
  have hparts : ∀ part ∈ [d.name, d.endpoint, d.region, d.style], '|' ∉ part.toList := by
    have hbars := h.bars
    simp only [List.forall_mem_cons] at hbars ⊢
    refine ⟨hbars.1, hbars.2.1, hbars.2.2.1, ?_, by simp⟩
    rcases h.style with hs | hs <;> rw [hs] <;> decide
  rw [Declaration.declaring, Text.cutAll_intercalate '|' rfl (List.cons_ne_nil _ _) hparts,
    List.map_map]
  simp

/-- A variable that declares is read as the provider that is declared. -/
theorem Declaration.IsGood.ofVariable_eq (h : d.IsGood)
    (hown : ∀ v ∈ d.own, env.get? v.1 = some v.2) :
    ofVariable env d.declaring.1 d.key d.declaring.2 = .ok d.provider := by
  simp only [Declaration.own, List.forall_mem_cons] at hown
  obtain ⟨haccess, hsecret, hbucket, hexpires, -⟩ := hown
  obtain ⟨haccess', hsecret', hbucket'⟩ := h.given
  have hname (ending : String) : s!"{d.key}_{ending}" = d.key ++ ("_" ++ ending) :=
    String.append_assoc
  have hsecrets : (secretFields.mapM fun f => do
      return (f.1, Json.text (← requireVariable env s!"{d.key}_{f.2}")) :
        Except LoadFault (List (String × Json))) =
      .ok [("aws_access_key_id", .text d.access), ("aws_secret_access_key", .text d.secret),
        ("bucket_name", .text d.bucket)] := by
    refine mapM_eq_ok_iff.mpr (.cons ?_ (.cons ?_ (.cons ?_ .nil))) <;> rw [hname]
    · exact bind_eq_ok.mpr ⟨_, requireVariable_eq haccess haccess', rfl⟩
    · exact bind_eq_ok.mpr ⟨_, requireVariable_eq hsecret hsecret', rfl⟩
    · exact bind_eq_ok.mpr ⟨_, requireVariable_eq hbucket hbucket', rfl⟩
  have hexpiry : env.get? s!"{d.key}_PRESIGN_EXPIRES" = some (toString d.expires) := by
    rw [← hexpires]
    rfl
  unfold ofVariable
  rw [h.cutAll_declaring]
  dsimp only
  rw [hsecrets, hexpiry]
  refine h.ofFields_eq ?_ rfl (.inr rfl) _ _
  simp only [Declaration.texts, List.forall_mem_cons]
  exact ⟨rfl, rfl, rfl, rfl, rfl, rfl, rfl, by simp⟩

/-- Only what begins like a declaration declares a key. -/
theorem filterMap_declaredKey? (h : Declares vars ds) :
    (vars.filterMap fun v => (declaredKey? v.1).map fun key => (key, v)) =
      ds.map fun d => (d.key, d.declaring) := by
  have hfilter : (vars.filterMap fun v => (declaredKey? v.1).map fun key => (key, v)) =
      (vars.filter fun v => "PROVIDER_".toList.isPrefixOf v.1.toList).filterMap fun v =>
        (declaredKey? v.1).map fun key => (key, v) := by
    rw [List.filterMap_filter]
    refine List.filterMap_congr fun v _ => ?_
    unfold declaredKey?
    dsimp only [declarationStart]
    split <;> rfl
  have hkey (d : Declaration) : declaredKey? d.declaring.1 = some d.key :=
    declaredKey?_eq_some_iff.mpr rfl
  rw [hfilter, h.order, List.filterMap_map]
  simp only [Function.comp_def, hkey, Option.map_some]
  exact congrFun List.filterMap_eq_map ds

/-- The variables are loaded as the providers that are declared, in order. -/
theorem loadEnvironment_of_declares (h : Declares vars ds) (hgood : ∀ d ∈ ds, d.IsGood)
    (hkeys : (ds.map Declaration.key).Nodup) :
    loadEnvironment vars = .ok (ds.map fun d => (d.key, d.provider)) := by
  have hnodup := h.nodup_keys hgood hkeys
  obtain ⟨others, hperm, -⟩ := h.all
  rw [loadEnvironment, filterMap_declaredKey? h]
  refine mapM_eq_ok_iff.mpr ?_
  rw [List.forall₂_map_left_iff, List.forall₂_map_right_iff, List.forall₂_same]
  intro d hd
  refine bind_eq_ok.mpr ⟨d.provider, (hgood d hd).ofVariable_eq fun v hv => ?_, rfl⟩
  refine Entries.get?_of_mem_of_nodup (hperm.mem_iff.mpr ?_) hnodup
  exact List.mem_append_left _ (List.mem_append_right _ (List.mem_flatMap.mpr ⟨d, hd, hv⟩))

end

/-! ## In a file -/

section

variable {d : Declaration} {ds : List Declaration} {entries fields : Entries String Json}

theorem keys_fields (d : Declaration) :
    Entries.keys d.fields =
      ["provider_name", "endpoint_url", "region_name", "addressing_style", "aws_access_key_id",
        "aws_secret_access_key", "bucket_name", "presign_expires_seconds"] :=
  rfl

theorem nodup_keys_of_perm (hperm : fields.Perm d.fields) : (Entries.keys fields).Nodup := by
  rw [Entries.keys, (hperm.map _).nodup_iff]
  show (Entries.keys d.fields).Nodup
  rw [keys_fields]
  decide

/-- An entry is loaded as the provider that is declared, in whatever order its fields come. -/
theorem Declaration.IsGood.loadEntry_eq (h : d.IsGood) (hperm : fields.Perm d.fields) :
    loadEntry (d.key, .object fields) = .ok (some (d.key, d.provider)) := by
  have hget (f : String × Json) (hf : f ∈ d.fields) : fields.get? f.1 = some f.2 :=
    Entries.get?_of_mem_of_nodup (hperm.mem_iff.mpr hf) (nodup_keys_of_perm hperm)
  have hmem (name : String) : name ∈ Entries.keys fields ↔ name ∈ Entries.keys d.fields :=
    (hperm.map _).mem_iff
  have hon : fields.get? "enabled" = none := by
    refine Entries.get?_eq_none ?_
    rw [hmem, keys_fields]
    decide
  have hcomplete : ∀ name ∈ requiredFields, fields.has name = true := by
    intro name hname
    rw [Entries.has_iff, hmem, keys_fields]
    revert name
    decide
  have hprovider := h.ofFields_eq (fun f hf => hget f (List.mem_append_left _ hf))
    (hget ("presign_expires_seconds", .int d.expires) (List.mem_append_right _ List.mem_cons_self))
    (.inl rfl) s!"provider '{d.key}'" s!"provider '{d.key}'"
  rw [loadEntry, ofEntry_of_complete d.key (by rw [hon]; rfl) hcomplete, hprovider]
  rfl

theorem ofDocument_of_isWrittenAs (h : IsWrittenAs ds entries) (hgood : ∀ d ∈ ds, d.IsGood) :
    ofDocument (.object entries) = .ok (ds.map fun d => (d.key, d.provider)) := by
  have hloaded : entries.mapM loadEntry = .ok (ds.map fun d => some (d.key, d.provider)) := by
    refine mapM_eq_ok_iff.mpr ?_
    rw [List.forall₂_map_right_iff]
    refine (((List.forall₂_and_left _ _).mpr ⟨hgood, h⟩).imp fun d e he => ?_).flip
    obtain ⟨hd, hkey, fields, hfields, hperm⟩ := he
    show loadEntry e = _
    rw [← hd.loadEntry_eq hperm, ← hkey, ← hfields]
  rw [ofDocument_object, hloaded]
  show Except.ok ((ds.map fun d => some (d.key, d.provider)).filterMap id) = _
  rw [List.filterMap_map]
  exact congrArg _ (congrFun List.filterMap_eq_map ds)

theorem keys_of_isWrittenAs (h : IsWrittenAs ds entries) :
    Entries.keys entries = ds.map Declaration.key := by
  induction h with
  | nil => rfl
  | cons he hrest ih => rw [Entries.keys, List.map_cons, List.map_cons, he.1, ← ih]; rfl

theorem Declaration.IsGood.isLegible (h : d.IsGood) (hperm : fields.Perm d.fields) :
    Json.IsLegible 989 (.object fields) := by
  have hall : ∀ f ∈ d.fields, Json.IsLegible 988 f.2 := by
    simp only [Declaration.fields, Declaration.texts, List.cons_append, List.nil_append,
      List.forall_mem_cons]
    exact ⟨.text _, .text _, .text _, .text _, .text _, .text _, .text _,
      .int h.length_expires_le, by simp⟩
  exact .object (nodup_keys_of_perm hperm) fun f hf => hall f (hperm.mem_iff.mp hf)

/-- The document of the entries can be read again after it was written. -/
theorem isLegible_of_isWrittenAs (h : IsWrittenAs ds entries) (hgood : ∀ d ∈ ds, d.IsGood)
    (hkeys : (ds.map Declaration.key).Nodup) : Json.IsLegible Json.maxDepth (.object entries) := by
  refine .object (by rwa [keys_of_isWrittenAs h]) ?_
  induction h with
  | nil => simp
  | cons he hrest ih =>
      obtain ⟨-, fields, hfields, hperm⟩ := he
      obtain ⟨hd, hgood⟩ := List.forall_mem_cons.mp hgood
      refine List.forall_mem_cons.mpr ⟨?_, ih hgood (List.nodup_cons.mp hkeys).2⟩
      rw [hfields]
      exact hd.isLegible hperm

end

/-! ## Both -/

/-- Good declarations with distinct keys come to the same providers both ways. When their variables
are set, one after another, the environment is loaded as the declared providers, in order. When a
file holds the document of the declarations, however it is written, it is loaded as the same
providers; and the document can be written, on one line or with one item a line. -/
theorem declared_either_way {ds : List Declaration} {vars : Environment}
    (hgood : ∀ d ∈ ds, d.IsGood) (hkeys : (ds.map Declaration.key).Nodup)
    (hvars : Declares vars ds) :
    loadEnvironment (Entries.ofPairs vars) = .ok (ds.map fun d => (d.key, d.provider)) ∧
      ∀ entries, IsWrittenAs ds entries →
        (∀ t path content, t.read (.ofText path) = .ok content →
          readDocument content = .ok (.object entries) →
            loadFile t path = .ok (ds.map fun d => (d.key, d.provider))) ∧
        readDocument (Text.Utf8.ofString (Json.object entries).line) = .ok (.object entries) ∧
        readDocument (Text.Utf8.ofString (Json.object entries).page) = .ok (.object entries) := by
  refine ⟨?_, fun entries hentries => ⟨fun t path content hread hdocument => ?_, ?_⟩⟩
  · rw [Entries.ofPairs_of_nodup (hvars.nodup_keys hgood hkeys)]
    exact loadEnvironment_of_declares hvars hgood hkeys
  · rw [loadFile_of_read hread, hdocument]
    exact ofDocument_of_isWrittenAs hentries hgood
  · exact readDocument_written (isLegible_of_isWrittenAs hentries hgood hkeys)

/-! ### Two declarations, one of which begins like a variable of the other -/

/-- A bucket addressed in the host, for an hour and a minute. -/
def Sample.archive : Declaration :=
  ⟨"B2", "Backblaze B2", "https://s3.example.com", "us-west-000", "AKIDEXAMPLE", "wJalrXUtnFEMI",
    "archive", "virtual", 3660⟩

def Sample.attic : Declaration :=
  ⟨"B2_ACCESS", "Attic", "https://s3.example.net", "", "AK", "SK", "attic", "path", 604800⟩

/-- Their variables, mixed with one another and with one of another program. -/
def Sample.mixedVariables : Environment :=
  [("B2_ACCESS_BUCKET", "attic"), ("B2_ACCESS_KEY", "AKIDEXAMPLE"),
    ("PROVIDER_B2", "Backblaze B2|https://s3.example.com|us-west-000|virtual"),
    ("B2_ACCESS_ACCESS_KEY", "AK"), ("PATH", "/usr/bin"), ("B2_PRESIGN_EXPIRES", "3660"),
    ("B2_BUCKET", "archive"), ("PROVIDER_B2_ACCESS", "Attic|https://s3.example.net||path"),
    ("B2_SECRET_KEY", "wJalrXUtnFEMI"), ("B2_ACCESS_PRESIGN_EXPIRES", "604800"),
    ("B2_ACCESS_SECRET_KEY", "SK")]

/-- Their entries, with the fields of one of them the other way round. -/
def Sample.entries : Entries String Json :=
  [("B2", .object Sample.archive.fields), ("B2_ACCESS", .object Sample.attic.fields.reverse)]

theorem declared_either_way_mixed :
    loadEnvironment (Entries.ofPairs Sample.mixedVariables) =
        .ok [("B2", Sample.archive.provider), ("B2_ACCESS", Sample.attic.provider)] ∧
      loadFile (Sample.configured (Text.Utf8.ofString (Json.object Sample.entries).page))
          "config.json" =
        .ok [("B2", Sample.archive.provider), ("B2_ACCESS", Sample.attic.provider)] := by
  have hgood : ∀ d ∈ [Sample.archive, Sample.attic], d.IsGood := by
    rw [List.forall_mem_cons, List.forall_mem_singleton]
    constructor
    · exact ⟨by decide +kernel, by decide +kernel, by decide +kernel, .inr rfl, by decide⟩
    · exact ⟨by decide +kernel, by decide +kernel, by decide +kernel, .inl rfl, by decide⟩
  have hvars : Declares Sample.mixedVariables [Sample.archive, Sample.attic] :=
    ⟨⟨[("PATH", "/usr/bin")], by decide +kernel, by decide, by decide +kernel⟩, by decide +kernel⟩
  have hentries : IsWrittenAs [Sample.archive, Sample.attic] Sample.entries :=
    .cons ⟨rfl, _, rfl, .refl _⟩ (.cons ⟨rfl, _, rfl, List.reverse_perm _⟩ .nil)
  obtain ⟨henvironment, hfiles⟩ := declared_either_way hgood (by decide) hvars
  obtain ⟨hfile, -, hpage⟩ := hfiles Sample.entries hentries
  exact ⟨henvironment, hfile _ _ _ (read_configured _) hpage⟩

end UrlSigning.Provider
