import UrlSigning.Proofs.CommandLine.Plan
import UrlSigning.Proofs.Provider.Load
import UrlSigning.Proofs.Run.WellFormed

/-!
# One expiry, checked three times

The expiry of a URL is checked where providers are loaded or arguments are read, where a window is
made, and where the signer writes it in seconds. Whatever passes the first check passes the other
two, and the signer writes just the number of seconds that was asked for.
-/

namespace UrlSigning

/-- The seconds for which arguments ask, or else the provider does. -/
def CommandLine.Arguments.secondsFor (a : Arguments) (p : Provider) : Int :=
  a.expires.getD p.expires

/-- The failure says that a window or its expiry is refused. -/
def Failure.RefusesWindow : Failure → Prop
  | .window _ | .signing (.expiry _) => True
  | _ => False

namespace Run

open Signing Pipeline

section

variable {w : Surroundings} {p : Provider} {plan : Plan} {start : DateTime} {window : Window}

theorem exists_windowFor {length : Duration} (hlength : lengthFor p plan = .ok length)
    (haware : start.isAware = true) (hpos : 0 < length.micros)
    (hshort : length.micros ≤ longest.micros) :
    ∃ window, windowFor p plan start = .ok window ∧ window.length = length := by
  have hmake : Window.make start length = .ok ⟨start, length, haware, hpos, hshort⟩ := by
    unfold Window.make
    rw [dif_pos haware, dif_pos hpos, dif_pos hshort]
  refine ⟨⟨start, length, haware, hpos, hshort⟩, ?_, rfl⟩
  rw [windowFor_eq, hlength]
  exact mapError_eq_ok.mpr hmake

/-! ## Failures -/

theorem not_refusesWindow_of_isMalformed {f : Failure} (h : f.IsMalformed) : ¬f.RefusesWindow := by
  intro hrefuses
  cases f with
  | window _ => cases h
  | signing _ => cases h
  | _ => cases hrefuses

theorem not_refusesWindow_of_objectUrl {key : String} {f : Failure}
    (h : p.objectUrl key = .error f) : ¬f.RefusesWindow := by
  rcases bind_eq_error.mp h with h | ⟨text, -, h⟩
  · obtain ⟨fault, -, rfl⟩ := mapError_eq_error.mp h
    exact id
  · rcases bind_eq_error.mp h with h | ⟨base, -, h⟩
    · obtain ⟨fault, -, rfl⟩ := mapError_eq_error.mp h
      exact id
    · split at h <;> cases h

theorem resultOf_eq_error {signed : Signed} {f : Failure} (h : resultOf signed = .error f) :
    signed.failure = some f := by
  unfold resultOf at h
  split at h
  · cases h
  · next hfailure =>
      cases h
      exact hfailure

/-- With a window that the signer can write in seconds, no failure is about the window. -/
theorem not_refusesWindow {n : Int} {f : Failure} (hwindow : windowFor p plan start = .ok window)
    (hexpires : expirySeconds (some window.length) = .ok n)
    (h : (presignFor w p plan start).result = .error f) : ¬f.RefusesWindow := by
  rw [result_presignFor, hwindow, bind_eq_error] at h
  rcases h with h | ⟨_, hmade, h⟩
  · cases h
  cases hmade
  rcases bind_eq_error.mp h with h | ⟨url, -, h⟩
  · exact not_refusesWindow_of_objectUrl h
  rcases bind_eq_error.mp h with h | ⟨signed, -, h⟩
  · have hfailure := resultOf_eq_error h
    rcases hc : p.credentials with _ | c <;> rw [hc] at hfailure
    · cases hfailure
      exact id
    · rcases refused_or_isMalformed hfailure with ⟨fault, -, -, hnone | hrefused⟩ | hmalformed
      · cases hnone
      · -- the signer is told the length of the window
        have hsame : (configFor p plan window).options.expirySeconds = .ok n := hexpires
        rw [hsame] at hrefused
        cases hrefused
      · exact not_refusesWindow_of_isMalformed hmalformed
  · rcases bind_eq_error.mp h with h | ⟨finish, -, h⟩
    · obtain ⟨fault, -, rfl⟩ := mapError_eq_error.mp h
      exact id
    · cases h

/-! ## Loaded providers and planned runs -/

variable {a : CommandLine.Arguments} {files : Files.Tree} {key : String}

/-- What a loaded provider or else the arguments ask for is a length of whole seconds, from one to a
week. -/
theorem lengthFor_of_isChecked (hp : p.IsChecked key)
    (hplan : CommandLine.planOf a files = .ok plan) :
    ∃ length, lengthFor p plan = .ok length ∧ length.micros = a.secondsFor p * Time.second ∧
      1 ≤ a.secondsFor p ∧ a.secondsFor p ≤ Provider.mostSeconds := by
  unfold CommandLine.Arguments.secondsFor lengthFor
  rcases CommandLine.expires_of_planOf hplan with
    ⟨hnone, hexpires⟩ | ⟨n, length, hn, hexpires, hmicros, hpos, hshort⟩
  · obtain ⟨hleast, hmost⟩ := hp.expires_range
    have hrange : -86399999913600 ≤ p.expires ∧ p.expires < 86400000000000 := by
      unfold Provider.mostSeconds at hmost
      omega
    obtain ⟨length, hlength⟩ := Duration.exists_ofSeconds_iff.mpr hrange
    rw [hnone, hexpires]
    exact ⟨length, mapError_eq_ok.mpr hlength, Duration.ofSeconds_eq_ok_iff.mp hlength, hleast,
      hmost⟩
  · rw [hn, hexpires]
    refine ⟨length, rfl, hmicros, ?_⟩
    simp only [longest, Time.day, Time.second, Provider.mostSeconds, Option.getD_some] at *
    omega

/-- The expiry of a loaded provider, or the one that arguments ask for, is accepted for the window
and by the signer. -/
theorem window_of_isChecked (hp : p.IsChecked key)
    (hplan : CommandLine.planOf a files = .ok plan) (haware : start.isAware = true) :
    ∃ window, windowFor p plan start = .ok window ∧
      window.length.micros = a.secondsFor p * Time.second ∧
      expirySeconds (some window.length) = .ok (a.secondsFor p) := by
  obtain ⟨length, hlength, hmicros, hleast, hmost⟩ := lengthFor_of_isChecked hp hplan
  have hrange : 0 < length.micros ∧ length.micros ≤ longest.micros := by
    rw [hmicros]
    simp only [longest, Time.day, Time.second, Provider.mostSeconds] at *
    omega
  obtain ⟨window, hwindow, rfl⟩ := exists_windowFor hlength haware hrange.1 hrange.2
  exact ⟨window, hwindow, hmicros,
    expirySeconds_eq_ok_iff.mpr (Duration.comesTo_of_whole hrange.1 hmicros)⟩

/-- A run over loaded providers, planned from arguments and started at an instant, is never kept
from presigning by an expiry: the expiry of each provider, or else the one that the arguments ask
for, is accepted for the window and by the signer; no error among the results says otherwise; and
each request among them carries just that many seconds. -/
theorem expiry_accepted_throughout {env : Provider.Environment} {tree : Files.Tree} {path : String}
    {providers : Entries String Provider} {clock : Clock}
    (hload : Provider.load env tree path = .ok providers)
    (hplan : CommandLine.planOf a files = .ok plan)
    (hclock : plan.start = none → (clock.now w).isAware = true) :
    (∀ key p, (key, p) ∈ providers →
      ∃ window, windowFor p plan (plan.start.getD (clock.now w)) = .ok window ∧
        window.length.micros = a.secondsFor p * Time.second ∧
        expirySeconds (some window.length) = .ok (a.secondsFor p)) ∧
    ∀ results, (run w clock providers plan).result = .ok results →
      ∀ key result, (key, result) ∈ results → ∃ p, (key, p) ∈ providers ∧
        (result.status = .error → ∃ f,
          (presignFor w p plan (plan.start.getD (clock.now w))).result = .error f ∧
            result.message = some f.message ∧ ¬f.RefusesWindow) ∧
        (result.status = .ok → ∃ m, result.request = some m ∧
          Carries p m "X-Amz-Expires" (toString (a.secondsFor p))) := by
  have haware : (plan.start.getD (clock.now w)).isAware = true := by
    rcases hstart : plan.start with _ | start
    · exact hclock hstart
    · exact CommandLine.aware_of_planOf hplan hstart
  have hwindow : ∀ key p, (key, p) ∈ providers →
      ∃ window, windowFor p plan (plan.start.getD (clock.now w)) = .ok window ∧
        window.length.micros = a.secondsFor p * Time.second ∧
        expirySeconds (some window.length) = .ok (a.secondsFor p) :=
    fun key p hp => window_of_isChecked (Provider.isChecked_of_load hload hp) hplan haware
  refine ⟨hwindow, fun results hrun key result hresult => ?_⟩
  obtain ⟨p, hp, hturn⟩ := exists_takeTurn hrun hresult
  obtain ⟨window, hmade, -, hexpires⟩ := hwindow key p hp
  refine ⟨p, hp, ?_⟩
  rcases takeTurn_eq_ok hturn with ⟨m, hm, rfl⟩ | ⟨f, hf, -, rfl⟩
  · refine ⟨fun herror => Status.noConfusion herror, fun _ => ⟨m, rfl, ?_⟩⟩
    obtain ⟨s, url, hs⟩ := exists_isPresignedBy hm
    obtain ⟨window', hmade', hexpires'⟩ := hs.window
    obtain rfl : window = window' := Except.ok.inj (hmade.symm.trans hmade')
    have hseconds : s.expires = a.secondsFor p := Except.ok.inj (hexpires'.symm.trans hexpires)
    obtain ⟨-, -, -, hcarries, -⟩ := hs.carries
    rwa [hseconds] at hcarries
  · exact ⟨fun _ => ⟨f, hf, rfl, not_refusesWindow hmade hexpires hf⟩,
      fun hok => Status.noConfusion hok⟩

end

/-! ### A store of the environment -/

section

open Outgoing

def Sample.environment : Provider.Environment :=
  [("PROVIDER_main", "Main|https://s3.example.com|us-east-1|path"),
    ("main_ACCESS_KEY", "AKIDEXAMPLE"), ("main_SECRET_KEY", "wJalrXUtnFEMI"),
    ("main_BUCKET", "bucket"), ("main_PRESIGN_EXPIRES", "900")]

def Sample.quarterHour : Provider := { Sample.store with expires := 900 }

theorem isWellFormed_quarterHour : Sample.quarterHour.IsWellFormed Sample.base where
  endpoint := isWellFormed_store.endpoint
  scheme := isWellFormed_store.scheme
  place := isWellFormed_store.place
  resolves := rfl
  access := isWellFormed_store.access
  region := isWellFormed_store.region

theorem expiry_accepted_throughout_quarterHour :
    Provider.load Sample.environment {} "config.json" = .ok [("main", Sample.quarterHour)] ∧
      CommandLine.planOf { key := some "a.txt" } {} = .ok { objectKey := "a.txt" } ∧
      ∃ m, (run Sample.surroundings (.pinned Sample.noon) [("main", Sample.quarterHour)]
          { objectKey := "a.txt" }).result =
            .ok [("main", ⟨"main", .text "Main", "a.txt", .ok, some m, none⟩)] ∧
        Carries Sample.quarterHour m "X-Amz-Expires" "900" := by
  have hload : Provider.load Sample.environment {} "config.json" =
      .ok [("main", Sample.quarterHour)] := rfl
  have hplan : CommandLine.planOf { key := some "a.txt" } {} = .ok { objectKey := "a.txt" } := rfl
  obtain ⟨hwindows, hresults⟩ := expiry_accepted_throughout (w := Sample.surroundings) hload hplan
    fun _ => (rfl : (Clock.now Sample.surroundings (.pinned Sample.noon)).isAware = true)
  obtain ⟨window, hwindow, hmicros, hexpires⟩ := hwindows "main" _ List.mem_cons_self
  obtain ⟨-, hstart⟩ := windowFor_eq_ok hwindow
  have hcalendar : InCalendar window.start window.length := by
    unfold InCalendar
    rw [hstart, hmicros]
    decide +kernel
  obtain ⟨m, hm⟩ :=
    exists_presignFor_of_isWellFormed isWellFormed_quarterHour hwindow hexpires hcalendar
  have hrun := result_run_of_presignFor "main" hm
  obtain ⟨p, hp, -, hok⟩ := hresults _ hrun "main" _ List.mem_cons_self
  cases List.mem_singleton.mp hp
  obtain ⟨m', hm', hcarries⟩ := hok rfl
  obtain rfl : m = m' := Option.some.inj hm'
  exact ⟨hload, hplan, m, hrun, hcarries⟩

end

end Run

end UrlSigning
