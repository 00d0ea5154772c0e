import UrlSigning.Proofs.CommandLine.Command
import UrlSigning.Proofs.Provider.Malformed

/-!
# Answers to a configuration file

A file that cannot be loaded is declined with a complaint about the configuration, unless it
escapes the checks: then the program crashes with the fault of the loader.
-/

namespace UrlSigning.CommandLine

section

variable {w : Pipeline.Surroundings} {env : Provider.Environment} {t : Files.Tree}
  {words : List String} {a : Arguments} {path : String} {fault : Provider.LoadFault}

/-- When no variable declares a provider and there is a file, its fault is that of loading. -/
theorem load_of_fault {content : Bytes} (henv : Provider.isDeclared env = false)
    (hread : t.read (.ofText path) = .ok content) (h : Provider.loadFile t path = .error fault) :
    Provider.load env t path = .error fault := by
  unfold Provider.load Provider.loadSource
  rw [henv, Files.Tree.has_of_read hread, h]
  rfl

theorem exit_of_fault (w : Pipeline.Surroundings) (hwords : readArguments words = .ok a)
    (hkey : nonempty? a.key ≠ none) (h : Provider.load env t a.config = .error fault) :
    (command w env t words).exit =
      if fault.isConfig then .code 2 else .crashed (.load fault) := by
  obtain ⟨key, hkey⟩ := Option.ne_none_iff_exists'.mp hkey
  rw [command, hwords]
  dsimp only
  rw [perform, hkey, chooseProviders_of_fault h]
  cases fault.isConfig <;> rfl

end

/-- A file that can be read, whatever it holds, is loaded or refused with a fault of the
configuration just when it does not escape the checks. When it is not loaded and no variable
declares a provider, the program exits with code two just when the file does not escape, and
otherwise crashes with a fault that is not one of the configuration. -/
theorem configuration_declined_iff {t : Files.Tree} {path : String} {content : Bytes}
    (hread : t.read (.ofText path) = .ok content) :
    ((∃ providers, Provider.loadFile t path = .ok providers) ∨
        (∃ fault, Provider.loadFile t path = .error fault ∧ fault.isConfig = true) ↔
      ¬Provider.Escapes content) ∧
    ∀ w env words a, readArguments words = .ok a → a.config = path → nonempty? a.key ≠ none →
      Provider.isDeclared env = false → (∀ providers, Provider.loadFile t path ≠ .ok providers) →
        ((command w env t words).exit = .code 2 ↔ ¬Provider.Escapes content) ∧
        (Provider.Escapes content → ∃ fault, Provider.loadFile t path = .error fault ∧
          fault.isConfig = false ∧ (command w env t words).exit = .crashed (.load fault)) := by
  have hescapes : Provider.Escapes content ↔
      ∃ fault, Provider.loadFile t path = .error fault ∧ fault.isConfig = false := by
    rw [Provider.loadFile_of_read hread]
    exact Provider.escapes_iff
  constructor
  · rw [hescapes]
    rcases Provider.loadFile t path with fault | providers
    · simp
    · simp
  · rintro w env words a hwords rfl hkey henv hnone
    rcases hload : Provider.loadFile t a.config with fault | providers
    · rw [hload] at hescapes
      rw [exit_of_fault w hwords hkey (load_of_fault henv hread hload), hescapes]
      cases hconfig : fault.isConfig
      · simp [hconfig]
      · simp [hconfig]
    · exact absurd hload (hnone providers)

/-! ### A file that breaks off, and files that escape -/

section

open Provider.Sample

/-- A document that breaks off does not escape, and is declined. -/
theorem configuration_declined_unclosed :
    ¬Provider.Escapes (Text.Utf8.ofString "[") ∧
      (command Pipeline.Sample.surroundings [] (configured (Text.Utf8.ofString "["))
        ["-k", "a.txt"]).exit = .code 2 := by
  have hwords : readArguments ["-k", "a.txt"] = .ok { key := some "a.txt" } := by decide +kernel
  have hfault : ∃ fault, Provider.loadFile (configured (Text.Utf8.ofString "[")) "config.json" =
      .error fault ∧ fault.isConfig = true := by
    have hcheck : (match Provider.loadFile (configured (Text.Utf8.ofString "[")) "config.json" with
        | .error fault => fault.isConfig
        | .ok _ => false) = true := by
      decide +kernel
    split at hcheck
    · next fault hload => exact ⟨fault, hload, hcheck⟩
    · cases hcheck
  obtain ⟨hescapes, hanswer⟩ :=
    configuration_declined_iff (Provider.read_configured (Text.Utf8.ofString "["))
  have hnot := hescapes.mp (.inr hfault)
  obtain ⟨fault, hload, -⟩ := hfault
  have hnone (providers : Entries String Provider) :
      Provider.loadFile (configured (Text.Utf8.ofString "[")) "config.json" ≠ .ok providers := by
    rw [hload]
    rintro ⟨⟩
  exact ⟨hnot, (hanswer _ [] _ _ hwords rfl (by decide) rfl hnone).1.mpr hnot⟩

/-- The program crashes over the content instead of declining it: the fault of the loader is not one
of the configuration. -/
def CrashesOver (content : Bytes) : Prop :=
  ∃ fault, Provider.loadFile (configured content) "config.json" = .error fault ∧
    fault.isConfig = false ∧
    ∀ w, (command w [] (configured content) ["-k", "a.txt"]).exit = .crashed (.load fault)

theorem crashesOver_of_escapes {content : Bytes} (h : Provider.Escapes content) :
    CrashesOver content := by
  have hwords : readArguments ["-k", "a.txt"] = .ok { key := some "a.txt" } := by decide +kernel
  have hread := Provider.read_configured content
  obtain ⟨fault, hload, hconfig⟩ := Provider.escapes_iff.mp h
  rw [← Provider.loadFile_of_read hread] at hload
  refine ⟨fault, hload, hconfig, fun w => ?_⟩
  rw [exit_of_fault w hwords (by decide) (load_of_fault rfl hread hload), hconfig]
  rfl

/-- A provider that lacks nothing, but whose expiry is infinite. -/
def Sample.endless : Entries String Json :=
  [("provider_name", "Main"), ("endpoint_url", "https://s3.example.com"),
    ("aws_access_key_id", "AKIDEXAMPLE"), ("aws_secret_access_key", "wJalrXUtnFEMI"),
    ("region_name", "us-east-1"), ("bucket_name", "bucket"),
    ("presign_expires_seconds", .real (.infinite false))]

theorem isLegible_endless {depth : Nat} : Json.IsLegible (depth + 1) (.object Sample.endless) := by
  refine .object (by decide) ?_
  simp only [Sample.endless, List.forall_mem_cons]
  exact ⟨.text _, .text _, .text _, .text _, .text _, .text _,
    .word (show ("Infinity", _) ∈ Json.names by simp [Json.names]), by simp⟩

/-- A byte that is no text, a list, a number in the place of a provider, and a provider with an
infinite expiry make the program crash. -/
theorem configuration_crashes :
    CrashesOver [0xFF] ∧ CrashesOver (Text.Utf8.ofString (Json.array []).line) ∧
      CrashesOver (Text.Utf8.ofString (Json.object [("main", .int 1)]).line) ∧
      CrashesOver (Text.Utf8.ofString (Json.object [("main", .object Sample.endless)]).line) := by
  refine ⟨crashesOver_of_escapes ?_, crashesOver_of_escapes ?_, crashesOver_of_escapes ?_,
    crashesOver_of_escapes ?_⟩
  · refine .encoding fun cs hcs => ?_
    have hdecode := Text.Utf8.decode_eq_ok_iff.mpr hcs
    rw [Text.Utf8.decode, Text.Utf8.decodeFrom] at hdecode
    cases hdecode
  · refine .notFields (Provider.readDocument_written (.array (by simp))).1 ?_
    rintro fields ⟨⟩
  · have hentry : ∀ e ∈ [("main", Json.int 1)], Json.IsLegible 989 e.2 := by
      simpa using Json.IsLegible.int (by decide)
    refine Provider.escapes_of_first
      (Provider.readDocument_written (.object (by decide) hentry)).1 (.notFields ?_)
    rintro fields ⟨⟩
  · have hentry : ∀ e ∈ [("main", Json.object Sample.endless)], Json.IsLegible 989 e.2 := by
      simpa using isLegible_endless
    exact Provider.escapes_of_first
      (Provider.readDocument_written (.object (by decide) hentry)).1
      (.infinite rfl (by decide) ⟨"path", by decide, rfl⟩ rfl)

end

end UrlSigning.CommandLine
