import UrlSigning.CommandLine.Plan
import UrlSigning.Proofs.Checked
import UrlSigning.Proofs.Entries
import UrlSigning.Proofs.Text.Cut
import UrlSigning.Proofs.Time.Seconds

/-!
# Plans of arguments

What a plan is known to be when it was made from arguments: its window, if it asks for one, is a
whole number of seconds up to a week long, its start is told by a clock whose offset is known, and
its headers are those that were read.
-/

namespace UrlSigning.CommandLine

open Text

section

variable {a : Arguments} {t : Files.Tree} {plan : Run.Plan}

theorem planOf_eq_ok (h : planOf a t = .ok plan) :
    a.expires.mapM expiryOf = .ok plan.expires ∧
      (a.startTime.mapM fun s => (readStartTime s).mapError PlanFault.startTime) = .ok plan.start ∧
      readHeaders a.headers = .ok plan.headers ∧ plan.objectKey = a.key.getD "" := by
  obtain ⟨expires, hexpires, h⟩ := bind_eq_ok.mp h
  obtain ⟨start, hstart, h⟩ := bind_eq_ok.mp h
  obtain ⟨payload, -, h⟩ := bind_eq_ok.mp h
  obtain ⟨headers, hheaders, h⟩ := bind_eq_ok.mp h
  cases h
  exact ⟨hexpires, hstart, hheaders, rfl⟩

theorem aware_of_readStartTime {text : String} {start : DateTime}
    (h : readStartTime text = .ok start) : start.isAware = true := by
  obtain ⟨told, -, h⟩ := bind_eq_ok.mp h
  cases h
  rfl

/-- A start that arguments ask for is an instant. -/
theorem aware_of_planOf (h : planOf a t = .ok plan) {start : DateTime}
    (hstart : plan.start = some start) : start.isAware = true := by
  obtain ⟨-, hread, -⟩ := planOf_eq_ok h
  rcases option_mapM_eq_ok hread with ⟨-, hnone⟩ | ⟨text, read, -, hsome, hread⟩
  · rw [hnone] at hstart
    cases hstart
  · rw [hsome] at hstart
    cases hstart
    exact aware_of_readStartTime (mapError_eq_ok.mp hread)

theorem expiryOf_eq_ok {n : Int} {length : Duration} (h : expiryOf n = .ok length) :
    length.micros = n * Time.second ∧ 0 < length.micros ∧
      length.micros ≤ Signing.longest.micros := by
  obtain ⟨made, hmade, h⟩ := bind_eq_ok.mp h
  split at h
  · next hrange =>
      cases h
      exact ⟨Duration.ofSeconds_eq_ok_iff.mp (mapError_eq_ok.mp hmade), hrange⟩
  · cases h

/-- A window that arguments ask for is as many seconds long as they say, from one to a week. -/
theorem expires_of_planOf (h : planOf a t = .ok plan) :
    (a.expires = none ∧ plan.expires = none) ∨
      ∃ n length, a.expires = some n ∧ plan.expires = some length ∧
        length.micros = n * Time.second ∧ 0 < length.micros ∧
        length.micros ≤ Signing.longest.micros := by
  obtain ⟨hexpires, -, -⟩ := planOf_eq_ok h
  refine (option_mapM_eq_ok hexpires).imp_right ?_
  rintro ⟨n, length, hn, hlength, hmade⟩
  exact ⟨n, length, hn, hlength, expiryOf_eq_ok hmade⟩

end

/-! ## Headers -/

section

variable {items : List String} {headers : Entries String String}

end

end UrlSigning.CommandLine
