import UrlSigning.Proofs.Run.Isolation
import UrlSigning.Proofs.Run.WellFormed

/-!
# Runs that return

A run over providers that are well formed returns unless an instant that it needs is outside the
calendar. Such a failure is not one of this library's own, so it ends the run.
-/

namespace UrlSigning.Run

open Signing Pipeline

section

variable {w : Surroundings} {plan : Plan} {clock : Clock} {providers : Entries String Provider}

/-- A run over well-formed providers returns just when the window of each of them has a length, and
the start and the end of each window that is accepted are in the calendar. A run that returns comes
to one result for each provider. -/
theorem run_returns_iff (hproviders : ∀ e ∈ providers, ∃ base, e.2.IsWellFormed base)
    (hkeys : (Entries.keys providers).Nodup) :
    ((∃ results, (run w clock providers plan).result = .ok results) ↔
      ∀ e ∈ providers, ∃ length, lengthFor e.2 plan = .ok length ∧
        (Accepts (plan.start.getD (clock.now w)) length →
          InCalendar (plan.start.getD (clock.now w)) length)) ∧
    ∀ results, (run w clock providers plan).result = .ok results →
      Entries.keys results = Entries.keys providers := by
  constructor
  · unfold run
    rw [exists_runFrom_iff]
    refine forall₂_congr fun e he => ?_
    obtain ⟨base, hbase⟩ := hproviders e he
    exact exists_takeTurn_of_isWellFormed hbase
  · intro results hrun
    exact keys_eq_of_forall₂ (runFrom_nil_eq_ok hkeys hrun).1

end

/-! ### A store, at noon and at the end of the calendar -/

section

open Outgoing

theorem run_returns_iff_noon :
    (∀ e ∈ [("main", Sample.store)], ∃ base, e.2.IsWellFormed base) ∧
      (Entries.keys [("main", Sample.store)]).Nodup ∧
      ∃ results, (run Sample.surroundings .system [("main", Sample.store)]
          (Sample.planFor "a.txt")).result = .ok results ∧
        Entries.keys results = ["main"] := by
  have hproviders : ∀ e ∈ [("main", Sample.store)], ∃ base, e.2.IsWellFormed base := by
    intro e he
    rw [List.mem_singleton.mp he]
    exact ⟨Sample.base, isWellFormed_store⟩
  have hkeys : (Entries.keys [("main", Sample.store)]).Nodup := by decide
  obtain ⟨hiff, hresults⟩ :=
    @run_returns_iff Sample.surroundings (Sample.planFor "a.txt") .system _ hproviders hkeys
  obtain ⟨results, hrun⟩ := hiff.mpr fun e _ =>
    ⟨Sample.hour.length, rfl, fun _ => by
      show InCalendar Sample.noon Sample.hour.length
      unfold InCalendar
      decide +kernel⟩
  exact ⟨hproviders, hkeys, results, hrun, hresults results hrun⟩

/-- The last second of the calendar. -/
def Sample.lastSecond : DateTime := ⟨Time.calendarEnd - Time.second, some .zero, by decide⟩

def Sample.late : Plan where
  objectKey := "a.txt"
  expires := some Sample.hour.length
  start := some Sample.lastSecond

/-- A run over a well-formed provider does not return when it starts in the last second of the
calendar, for an hour. -/
theorem run_fails_late :
    Sample.store.IsWellFormed Sample.base ∧ Sample.late.start = some Sample.lastSecond ∧
      Sample.lastSecond.isAware = true ∧ Sample.late.expires = some Sample.hour.length ∧
      ∀ results, (run Sample.surroundings .system [("main", Sample.store)] Sample.late).result ≠
        .ok results := by
  refine ⟨isWellFormed_store, rfl, rfl, rfl, fun results hrun => ?_⟩
  obtain ⟨result, hturn⟩ :=
    exists_runFrom_iff.mp ⟨results, hrun⟩ ("main", Sample.store) List.mem_cons_self
  obtain ⟨length, hlength, hcalendar⟩ :=
    (exists_takeTurn_of_isWellFormed isWellFormed_store).mp ⟨result, hturn⟩
  cases hlength
  have haccepts : Accepts Sample.lastSecond Sample.hour.length := by
    unfold Accepts IsPositiveWhole
    decide +kernel
  have hend := (hcalendar haccepts).2.2
  revert hend
  decide +kernel

end

end UrlSigning.Run
