import UrlSigning.Proofs.CommandLine.Command
import UrlSigning.Proofs.Report.Console
import UrlSigning.Proofs.Run.Expiry

/-!
# Exit codes

What an exit code says: two, that the program declined what it was asked for and did nothing; none,
that every chosen provider came to a request, and there was one; one, that some provider did not.
The report that is written says the same by its counts.
-/

namespace UrlSigning.CommandLine

open Run

section

variable {w : Pipeline.Surroundings} {env : Provider.Environment} {t : Files.Tree}
  {words : List String} {n : Nat}

end

/-! ### A quiet run over a store of the environment -/

section

open Pipeline Signing

/-- The quarter of an hour from noon on. -/
def Sample.quarter : Window :=
  { Sample.hour with
    length := ⟨900000000, by decide⟩
    positive := by decide
    short := by decide }

/-- Whatever the object is, it is presigned for the store of the environment. -/
theorem exists_run_quarterHour (objectKey : String) :
    ∃ m finish, (run Sample.surroundings .system [("main", Sample.quarterHour)]
        { objectKey := objectKey }).result =
          .ok [("main", ⟨"main", .text "Main", objectKey, .ok, some m, none⟩)] ∧
      Sample.quarter.finish = .ok finish ∧ m.expiresAt = some finish := by
  have hwindow : windowFor Sample.quarterHour { objectKey := objectKey } Sample.noon =
      .ok Sample.quarter := rfl
  have hcalendar : InCalendar Sample.quarter.start Sample.quarter.length := by
    unfold InCalendar
    decide +kernel
  obtain ⟨m, hm⟩ :=
    exists_presignFor_of_isWellFormed (w := Sample.surroundings) isWellFormed_quarterHour hwindow
      rfl hcalendar
  obtain ⟨window, finish, hwindow', hfinish, hexpires⟩ := expiresAt_of_presignFor hm
  obtain rfl := Except.ok.inj (hwindow.symm.trans hwindow')
  exact ⟨m, finish, result_run_of_presignFor "main" hm, hfinish, hexpires⟩

/-- Whatever the key is, if it can be shown, a quiet program presigns it for the store of the
environment and says that all is good. -/
theorem exit_quarterHour {words : List String} {objectKey : String} {output : Option String}
    (hwords : readArguments words =
      .ok { key := some objectKey, quiet := true, jsonOutput := output })
    (hkey : objectKey ≠ "") (hshows : Report.Console.Shows objectKey)
    (hwritten : ∀ results path, nonempty? output = some path →
      ∃ made, Report.writeDocument Sample.noon results path {} = .ok made) :
    (command Sample.surroundings Sample.environment {} words).exit = .code 0 := by
  obtain ⟨m, finish, hrun, hfinish, hexpires⟩ := exists_run_quarterHour objectKey
  have htable : ∃ cs, Report.Console.resultTable
      [⟨"main", .text "Main", objectKey, .ok, some m, none⟩] = .ok cs := by
    refine Report.Console.exists_resultTable ?_ ?_ ?_ <;> rw [List.forall_mem_singleton]
    · exact ⟨"Main", rfl, Report.Console.shows_of_isOk (by decide +kernel)⟩
    · exact hshows
    · have hcell : Report.Console.expiryCell ⟨"main", .text "Main", objectKey, .ok, some m, none⟩ =
          "2024-01-10T12:15:00+00:00" := by
        cases hfinish
        rw [Report.Console.expiryCell]
        dsimp only [Option.bind_some]
        rw [hexpires]
        decide +kernel
      rw [hcell]
      exact Report.Console.shows_of_isOk (by decide +kernel)
  obtain ⟨cs, hcs⟩ := htable
  have hgiven : nonempty? (some objectKey) ≠ none := by simp [nonempty?, hkey]
  have hg : GoesAhead { key := some objectKey, quiet := true, jsonOutput := output }
      Sample.environment {} [("main", Sample.quarterHour)] { objectKey := objectKey } :=
    ⟨hgiven, rfl, List.cons_ne_nil _ _, rfl⟩
  exact exit_of_quiet hwords rfl hg hrun
    (Report.Console.fault_print_finished (List.cons_ne_nil _ _) hcs) (hwritten _)

end

end UrlSigning.CommandLine
