import UrlSigning.Proofs.Run.Presigned
import UrlSigning.Proofs.Sending.Target
import UrlSigning.Proofs.Signing.Frame
import UrlSigning.Proofs.Signing.Success
import UrlSigning.Proofs.Time.Calendar

/-!
# Well-formed providers

For a provider that is well formed and a window that is accepted, presigning fails only when an
instant that it needs is outside the calendar: the start in universal time, which the signer writes,
or the end of the window, which is worked out when the request is already signed. Neither failure is
one of this library's own.
-/

namespace UrlSigning

/-- The endpoint of the provider is a URL of the web, its objects are at a place that names a host,
there are keys to sign with, and what goes into the scope of a signature is text. -/
structure Provider.IsWellFormed (p : Provider) (base : Url.Parts) : Prop where
  endpoint : ∃ text, p.endpoint = .text text ∧ Url.split text = .ok base
  scheme : Url.IsWeb base.scheme
  place : Url.NamesHost (p.place base)
  resolves : p.credentials.isSome = true
  access : ∃ text, p.access = .text text
  region : ∃ text, p.region = .text text

/-- The instants that presigning needs are in the calendar: the start in universal time, and the end
of the window on the clock of the start. -/
def InCalendar (start : DateTime) (length : Duration) : Prop :=
  0 ≤ start.instant ∧ start.instant < Time.calendarEnd ∧
    start.clock + length.micros < Time.calendarEnd

namespace Run

open Signing Pipeline

section

variable {w : Surroundings} {p : Provider} {base : Url.Parts} {plan : Plan} {start : DateTime}
  {key : String} {window : Window}

/-! ## Signing -/

theorem isHosted_objectParts (hp : p.IsWellFormed base) (key : String) :
    (p.objectParts base key).IsHosted := by
  obtain ⟨text, -, hbase⟩ := hp.endpoint
  refine ⟨hp.scheme, hp.place, .inr (Provider.head?_objectPath hbase ?_ key)⟩
  intro hpathStyle
  have hplace : p.place base = base.authority := by simp [Provider.place, hpathStyle]
  exact hplace ▸ hp.place.ne_empty

/-- For a well-formed provider, a signer signs the request for any object. -/
theorem failure_addSignature_of_isWellFormed (hp : p.IsWellFormed base) {c : Credentials}
    (hc : p.credentials = some c) (expires : Int) (time : DateTime) :
    ((signerFor p plan c expires time).addSignature
      (requestFor plan (Url.join (p.objectParts base plan.objectKey)))).failure = none := by
  have haccess : ∃ text, c.access = .text text := by
    unfold Provider.credentials at hc
    split at hc <;> cases hc
    exact hp.access
  obtain ⟨⟨credential, hcredential⟩, scopeText, hscopeText⟩ :=
    exists_scope (s := signerFor p plan c expires time) haccess hp.region
  obtain ⟨parts, hparts, hhosted⟩ := (isHosted_objectParts hp plan.objectKey).exists_split
  exact failure_addSignature_of_hosted rfl rfl hparts hhosted hcredential hscopeText

/-- For a well-formed provider and a window that the signer can write in seconds, the time is
written first, and the end of the window is worked out of what was signed. -/
theorem signedFor_eq (plan : Plan) (hp : p.IsWellFormed base) {n : Int}
    (hexpires : expirySeconds (some window.length) = .ok n) :
    ∃ signed : DateTime → Http.Request,
      signedFor p plan window (Url.join (p.objectParts base plan.objectKey)) =
        ((window.start.toUtc).mapError .time >>= fun time =>
          presignedOf window (signed time)) := by
  obtain ⟨c, hc⟩ := Option.isSome_iff_exists.mp hp.resolves
  refine ⟨fun time => ((signerFor p plan c n time).addSignature
    (requestFor plan (Url.join (p.objectParts base plan.objectKey)))).request, ?_⟩
  have hconfig := ofConfig_configFor p plan window c window.start
  rw [mapError_eq_ok.mpr hexpires] at hconfig
  unfold signedFor
  rw [hc]
  rcases htime : window.start.toUtc with fault | time <;> rw [htime] at hconfig
  · -- without the time there is no signer
    rw [sign, hconfig]
    rfl
  · obtain ⟨hfailure, hrequest⟩ := Verification.sign_of_ofConfig hconfig
      (requestFor plan (Url.join (p.objectParts base plan.objectKey)))
    rw [resultOf, hfailure, failure_addSignature_of_isWellFormed hp hc, hrequest]
    rfl

/-! ## The calendar -/

theorem ofClock_eq_ok {micros : Int} {offset : Option Offset} :
    (∃ d, DateTime.ofClock micros offset = .ok d) ↔ 0 ≤ micros ∧ micros < Time.calendarEnd := by
  unfold DateTime.ofClock
  constructor
  · rintro ⟨d, hd⟩
    split at hd
    · next h => exact h
    · cases hd
  · intro h
    exact ⟨_, dif_pos h⟩

/-- The instants of a window are in the calendar just when the signer can write its start and its
end can be worked out. -/
theorem inCalendar_iff (window : Window) :
    ((∃ time, window.start.toUtc = .ok time) ∧ ∃ finish, window.finish = .ok finish) ↔
      InCalendar window.start window.length := by
  have hstart := window.start.inCalendar.1
  have hpositive := window.positive
  rw [DateTime.toUtc_eq window.aware, ofClock_eq_ok]
  show _ ∧ (∃ finish, DateTime.ofClock (window.start.clock + window.length.micros) _ = _) ↔ _
  rw [ofClock_eq_ok, InCalendar]
  omega

/-! ## Turns -/

/-- The start and the length make a window that the signer can write in seconds. -/
def Accepts (start : DateTime) (length : Duration) : Prop :=
  start.isAware = true ∧ 0 < length.micros ∧ length.micros ≤ longest.micros ∧
    IsPositiveWhole length

theorem isOwn_time (fault : Time.Fault) : (Failure.time fault).kind.isOwn = false := by
  unfold Failure.kind
  dsimp only
  split <;> rfl

/-- A turn comes to a result unless presigning fails with a failure of another kind than this
library's own. -/
theorem exists_takeTurn_iff :
    (∃ result, (takeTurn w key p plan start).result = .ok result) ↔
      ∀ f, (presignFor w p plan start).result = .error f → f.kind.isOwn = true := by
  constructor
  · rintro ⟨result, hresult⟩ f hf
    rcases takeTurn_eq_ok hresult with ⟨m, hm, -⟩ | ⟨f', hf', hown, -⟩
    · cases hm.symm.trans hf
    · cases hf'.symm.trans hf
      exact hown
  · intro hown
    rcases hpresigned : (presignFor w p plan start).result with f | m
    · exact ⟨_, takeTurn_of_error hpresigned (hown f hpresigned)⟩
    · exact ⟨_, takeTurn_of_ok hpresigned⟩

theorem lengthFor_eq_error {e : Failure} (h : lengthFor p plan = .error e) :
    ∃ fault, e = .time fault := by
  unfold lengthFor at h
  split at h
  · cases h
  · obtain ⟨fault, -, rfl⟩ := mapError_eq_error.mp h
    exact ⟨fault, rfl⟩

theorem make_eq_error {length : Duration} {fault : Window.Fault}
    (h : Window.make start length = .error fault) : ¬Accepts start length := by
  rintro ⟨haware, hpos, hshort, -⟩
  unfold Window.make at h
  rw [dif_pos haware, dif_pos hpos, dif_pos hshort] at h
  cases h

/-- The signer refuses an expiry that it cannot write in seconds. -/
theorem signedFor_of_refused (hp : p.IsWellFormed base) {fault : Signing.Fault} (url : String)
    (hexpires : expirySeconds (some window.length) = .error fault) :
    signedFor p plan window url = .error (.signing fault) := by
  obtain ⟨c, hc⟩ := Option.isSome_iff_exists.mp hp.resolves
  have hconfig := ofConfig_configFor p plan window c window.start
  rw [mapError_eq_error.mpr ⟨fault, hexpires, rfl⟩] at hconfig
  unfold signedFor
  rw [hc, sign, hconfig]
  rfl

theorem forall_signedFor_iff (hp : p.IsWellFormed base) {n : Int}
    (hexpires : expirySeconds (some window.length) = .ok n) :
    (∀ f, signedFor p plan window (Url.join (p.objectParts base plan.objectKey)) = .error f →
        f.kind.isOwn = true) ↔
      InCalendar window.start window.length := by
  obtain ⟨signed, hsigned⟩ := signedFor_eq plan hp hexpires
  rw [hsigned, ← inCalendar_iff]
  constructor
  · intro hown
    rcases htime : window.start.toUtc with fault | time <;> rw [htime] at hown
    · have hnot := hown (.time fault) rfl
      rw [isOwn_time] at hnot
      cases hnot
    rcases hfinish : window.finish with fault | finish
    · have herror : presignedOf window (signed time) = .error (.time fault) := by
        rw [presignedOf, hfinish]
        rfl
      have hnot := hown (.time fault) herror
      rw [isOwn_time] at hnot
      cases hnot
    · exact ⟨⟨time, rfl⟩, ⟨finish, rfl⟩⟩
  · rintro ⟨⟨time, htime⟩, ⟨finish, hfinish⟩⟩ f hf
    rw [htime] at hf
    have hok : presignedOf window (signed time) = .error f := hf
    rw [presignedOf, hfinish] at hok
    cases hok

theorem result_presignFor_of_windowFor_error {e : Failure}
    (h : windowFor p plan start = .error e) : (presignFor w p plan start).result = .error e := by
  rw [result_presignFor, h]
  rfl

theorem result_presignFor_of_windowFor (hp : p.IsWellFormed base)
    (h : windowFor p plan start = .ok window) :
    (presignFor w p plan start).result =
      signedFor p plan window (Url.join (p.objectParts base plan.objectKey)) := by
  obtain ⟨text, hendpoint, hbase⟩ := hp.endpoint
  rw [result_presignFor, h, Provider.objectUrl_eq hendpoint hbase plan.objectKey]
  rfl

/-- Presigning for a well-formed provider comes to a request when the signer can write the window in
seconds and its instants are in the calendar. -/
theorem exists_presignFor_of_isWellFormed (hp : p.IsWellFormed base)
    (hwindow : windowFor p plan start = .ok window) {n : Int}
    (hexpires : expirySeconds (some window.length) = .ok n)
    (hcalendar : InCalendar window.start window.length) :
    ∃ m, (presignFor w p plan start).result = .ok m := by
  obtain ⟨⟨time, htime⟩, finish, hfinish⟩ := (inCalendar_iff window).mpr hcalendar
  obtain ⟨signed, hsigned⟩ := signedFor_eq plan hp hexpires
  rw [result_presignFor_of_windowFor hp hwindow, hsigned, htime]
  show ∃ m, presignedOf window (signed time) = .ok m
  exact ⟨_, bind_eq_ok.mpr ⟨finish, mapError_eq_ok.mpr hfinish, rfl⟩⟩

/-- With a window of some length, only instants outside the calendar end the run. -/
theorem forall_presignFor_iff (hp : p.IsWellFormed base) {length : Duration}
    (hlength : lengthFor p plan = .ok length) :
    (∀ f, (presignFor w p plan start).result = .error f → f.kind.isOwn = true) ↔
      (Accepts start length → InCalendar start length) := by
  have hwindow := windowFor_eq p plan start
  rw [hlength] at hwindow
  rcases hmake : Window.make start length with fault | window
  · -- a window that is refused makes an error result
    have hrefused : windowFor p plan start = .error (.window fault) :=
      hwindow.trans (mapError_eq_error.mpr ⟨fault, hmake, rfl⟩)
    rw [result_presignFor_of_windowFor_error hrefused]
    refine ⟨fun _ haccepts => absurd haccepts (make_eq_error hmake), fun _ f hf => ?_⟩
    cases hf
    rfl
  obtain ⟨rfl, rfl⟩ := Window.make_eq_ok hmake
  rw [result_presignFor_of_windowFor hp (hwindow.trans (mapError_eq_ok.mpr hmake))]
  rcases hexpires : expirySeconds (some window.length) with fault | n
  · rw [signedFor_of_refused hp _ hexpires]
    refine ⟨fun _ haccepts => ?_, fun _ f hf => ?_⟩
    · obtain ⟨d, hd, hnot⟩ := expirySeconds_eq_error.mp ⟨fault, hexpires⟩
      cases hd
      exact absurd haccepts.2.2.2 hnot
    · cases hf
      rfl
  · rw [forall_signedFor_iff hp hexpires]
    have hwhole : IsPositiveWhole window.length := by
      by_contra hnot
      obtain ⟨fault, hfault⟩ := expirySeconds_eq_error.mpr ⟨_, rfl, hnot⟩
      cases hexpires.symm.trans hfault
    have haccepts : Accepts window.start window.length :=
      ⟨window.aware, window.positive, window.short, hwhole⟩
    exact ⟨fun h _ => h, fun h => h haccepts⟩

/-- The turn of a well-formed provider comes to a result just when its window has a length, and,
if the window is one that is accepted, its instants are in the calendar. -/
theorem exists_takeTurn_of_isWellFormed (hp : p.IsWellFormed base) :
    (∃ result, (takeTurn w key p plan start).result = .ok result) ↔
      ∃ length, lengthFor p plan = .ok length ∧
        (Accepts start length → InCalendar start length) := by
  rw [exists_takeTurn_iff]
  rcases hlength : lengthFor p plan with e | length
  · obtain ⟨fault, rfl⟩ := lengthFor_eq_error hlength
    have hwindow : windowFor p plan start = .error (.time fault) := by
      rw [windowFor_eq, hlength]
      rfl
    constructor
    · intro hown
      have hnot := hown (.time fault) (result_presignFor_of_windowFor_error hwindow)
      rw [isOwn_time] at hnot
      cases hnot
    · rintro ⟨length, hnone, -⟩
      cases hnone
  · rw [forall_presignFor_iff hp hlength]
    constructor
    · exact fun h => ⟨length, rfl, h⟩
    · rintro ⟨length', hsame, h⟩
      cases hsame
      exact h

end

/-! ### A store -/

section

open Outgoing

theorem namesHost_store : Url.NamesHost "s3.example.com" where
  ends := List.forall_iff_forall_mem.mp (by decide +kernel)
  kept := List.forall_iff_forall_mem.mp (by decide +kernel)
  brackets := by decide +kernel
  equivalents := by decide +kernel
  host := by decide +kernel
  port := ⟨none, by decide +kernel⟩

theorem isWellFormed_store : Sample.store.IsWellFormed Sample.base where
  endpoint := ⟨"https://s3.example.com", rfl, by decide +kernel⟩
  scheme := .inr rfl
  place := namesHost_store
  resolves := rfl
  access := ⟨_, rfl⟩
  region := ⟨_, rfl⟩

theorem exists_presignFor_store (w : Surroundings) {plan : Plan}
    (hexpires : plan.expires = some Sample.hour.length) :
    ∃ m, (presignFor w Sample.store plan Sample.noon).result = .ok m := by
  have hwindow : windowFor Sample.store plan Sample.noon = .ok Sample.hour := by
    unfold windowFor
    rw [hexpires]
    rfl
  have hcalendar : InCalendar Sample.hour.start Sample.hour.length := by
    unfold InCalendar
    decide +kernel
  exact exists_presignFor_of_isWellFormed isWellFormed_store hwindow rfl hcalendar

end

end Run

end UrlSigning
