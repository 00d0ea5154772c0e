import UrlSigning.Proofs.CommandLine.Command
import UrlSigning.Proofs.Run.Expiry
import UrlSigning.Proofs.Signing.Digest
import UrlSigning.Proofs.Time.Iso

/-!
# Malformed arguments

Arguments that do not make a plan are reported: a value is wrong, or a file cannot be read, and the
program exits with code two. The exception is an expiry so long that it is no length of time. It is
made one before its range is checked, and the program crashes over it.
-/

namespace UrlSigning.CommandLine

open Run

/-- Whether the fault is that a number is out of its range, rather than that a value is wrong or a
file cannot be read. -/
def PlanFault.isOverflow : PlanFault → Bool
  | .expiryOverflow fault | .startTime fault => fault.isOverflow
  | .expiryRange | .payloadFile _ | .digest _ | .header _ => false

/-- The expiry is longer than any length of time, forth or back: its days have more than nine
digits. -/
def Arguments.ExpiryOverflows (a : Arguments) : Prop :=
  ∃ n, a.expires = some n ∧ ¬(-86399999913600 ≤ n ∧ n < 86400000000000)

/-- What is known of a plan that is made: its window is a whole number of seconds up to a week, if
it has one of its own, its start is an instant, and the hash of its payload is a word, or a digest
with the line end that was given with it. -/
structure IsSound (plan : Plan) : Prop where
  expires : ∀ length, plan.expires = some length →
    ∃ n, length.micros = n * Time.second ∧ 0 < n ∧ n ≤ 604800
  start : ∀ start, plan.start = some start → start.isAware = true
  payload : plan.payload.IsWord ∨ Signing.IsEndedDigest plan.payload.hash

/-! ## Faults of the parts -/

section

variable {a : Arguments} {t : Files.Tree} {plan : Plan} {fault : PlanFault} {n : Int}

theorem expiryOf_of_overflow (h : ¬(-86399999913600 ≤ n ∧ n < 86400000000000)) :
    ∃ overflow, expiryOf n = .error (.expiryOverflow overflow) ∧ overflow.isOverflow = true := by
  rcases hlength : Duration.ofSeconds n with overflow | length
  · refine ⟨overflow, ?_, Duration.isOverflow_of_ofSeconds hlength⟩
    rw [expiryOf, hlength]
    rfl
  · exact absurd (Duration.exists_ofSeconds_iff.mp ⟨length, hlength⟩) h

theorem expiryOf_eq_error (h : expiryOf n = .error fault)
    (hrange : -86399999913600 ≤ n ∧ n < 86400000000000) : fault = .expiryRange := by
  obtain ⟨length, hlength⟩ := Duration.exists_ofSeconds_iff.mpr hrange
  rw [expiryOf, hlength] at h
  rcases bind_eq_error.mp h with h | ⟨length, -, h⟩
  · cases h
  · split at h <;> cases h
    rfl

/-- A start time that cannot be read is refused for what its text says. -/
theorem isOverflow_of_readStartTime {text : String} {fault : Time.Fault}
    (h : readStartTime text = .error fault) : fault.isOverflow = false := by
  rcases bind_eq_error.mp h with h | ⟨start, -, h⟩
  · exact Time.Iso.isOverflow_of_read h
  · cases h

theorem payloadOf_eq_error (h : payloadOf a t = .error fault) :
    (∃ cause, fault = .payloadFile cause) ∨ ∃ cause, fault = .digest cause := by
  unfold payloadOf at h
  split at h
  · obtain ⟨cause, -, rfl⟩ := mapError_eq_error.mp (map_eq_error.mp h)
    exact .inl ⟨cause, rfl⟩
  · obtain ⟨cause, -, rfl⟩ := mapError_eq_error.mp h
    exact .inr ⟨cause, rfl⟩
  · cases h

theorem readHeaders_eq_error {items : List String} (h : readHeaders items = .error fault) :
    ∃ item ∈ items, fault = .header item := by
  rcases bind_eq_error.mp h with h | ⟨pairs, -, h⟩
  · obtain ⟨item, hitem, h⟩ := exists_of_mapM_eq_error h
    refine ⟨item, hitem, ?_⟩
    unfold readHeader at h
    split at h
    · dsimp only at h
      split at h <;> cases h
      rfl
    · cases h
      rfl
  · cases h

/-! ## Plans -/

theorem isSound_of_planOf (h : planOf a t = .ok plan) : IsSound plan where
  expires length hlength := by
    rcases expires_of_planOf h with ⟨-, hnone⟩ | ⟨n, length', -, hsome, hmicros, hpos, hshort⟩
    · rw [hnone] at hlength
      cases hlength
    · rw [hsome] at hlength
      cases hlength
      refine ⟨n, hmicros, ?_⟩
      simp only [Signing.longest, Time.day, Time.second] at hmicros hshort
      omega
  start start hstart := aware_of_planOf h hstart
  payload := plan.payload.hash_cases

/-- An expiry that is no length of time is the first fault that is found. -/
theorem planOf_of_overflows (h : a.ExpiryOverflows) (t : Files.Tree) :
    ∃ overflow, planOf a t = .error (.expiryOverflow overflow) ∧ overflow.isOverflow = true := by
  obtain ⟨n, hn, hrange⟩ := h
  obtain ⟨overflow, hexpiry, hoverflow⟩ := expiryOf_of_overflow hrange
  refine ⟨overflow, ?_, hoverflow⟩
  rw [planOf, hn, Option.mapM_some, hexpiry]
  rfl

/-- Every other fault is one of a value or of a file, and is reported. -/
theorem reported_of_planOf (hno : ¬a.ExpiryOverflows) (h : planOf a t = .error fault) :
    fault.isOverflow = false ∧ fault.isReported = true := by
  rcases bind_eq_error.mp h with h | ⟨expires, -, h⟩
  · obtain ⟨n, hn, h⟩ := option_mapM_eq_error h
    have hrange : -86399999913600 ≤ n ∧ n < 86400000000000 :=
      Classical.not_not.mp fun hrange => hno ⟨n, hn, hrange⟩
    rw [expiryOf_eq_error h hrange]
    exact ⟨rfl, rfl⟩
  rcases bind_eq_error.mp h with h | ⟨start, -, h⟩
  · obtain ⟨text, -, h⟩ := option_mapM_eq_error h
    obtain ⟨cause, hcause, rfl⟩ := mapError_eq_error.mp h
    exact ⟨isOverflow_of_readStartTime hcause, rfl⟩
  rcases bind_eq_error.mp h with h | ⟨payload, -, h⟩
  · rcases payloadOf_eq_error h with ⟨cause, rfl⟩ | ⟨cause, rfl⟩ <;> exact ⟨rfl, rfl⟩
  rcases bind_eq_error.mp h with h | ⟨headers, -, h⟩
  · obtain ⟨item, -, rfl⟩ := readHeaders_eq_error h
    exact ⟨rfl, rfl⟩
  · cases h

theorem isOverflow_iff (h : planOf a t = .error fault) :
    fault.isOverflow = true ↔ a.ExpiryOverflows := by
  by_cases hoverflows : a.ExpiryOverflows
  · obtain ⟨overflow, hplan, hoverflow⟩ := planOf_of_overflows hoverflows t
    rw [hplan] at h
    cases h
    exact iff_of_true hoverflow hoverflows
  · rw [(reported_of_planOf hoverflows h).1]
    exact iff_of_false Bool.false_ne_true hoverflows

theorem isReported_iff (h : planOf a t = .error fault) :
    fault.isReported = true ↔ ¬a.ExpiryOverflows := by
  by_cases hoverflows : a.ExpiryOverflows
  · obtain ⟨overflow, hplan, -⟩ := planOf_of_overflows hoverflows t
    rw [hplan] at h
    cases h
    exact iff_of_false Bool.false_ne_true (not_not_intro hoverflows)
  · exact iff_of_true (reported_of_planOf hoverflows h).2 hoverflows

end

/-- What comes of arguments that are accepted, whatever the files are. A plan that is made is sound.
If none can be made, a value is wrong or a file cannot be read, and the program, when it has a key
and providers to make a plan for, says so and exits with code two; except for an expiry that is no
length of time, over which it crashes. -/
theorem malformed_arguments_reported {words : List String} {a : Arguments}
    (h : readArguments words = .ok a) (t : Files.Tree) :
    (∀ plan, planOf a t = .ok plan → IsSound plan) ∧
    (∀ fault, planOf a t = .error fault → (fault.isOverflow = true ↔ a.ExpiryOverflows)) ∧
    (a.ExpiryOverflows → ∃ overflow, planOf a t = .error (.expiryOverflow overflow)) ∧
    ∀ w env loaded fault, nonempty? a.key ≠ none → Provider.load env t a.config = .ok loaded →
      chosen a loaded ≠ [] → planOf a t = .error fault →
        ((command w env t words).exit = .code 2 ↔ ¬a.ExpiryOverflows) ∧
        (¬a.ExpiryOverflows →
          command w env t words = complain t s!"Invalid arguments: {fault.message}") ∧
        (a.ExpiryOverflows → (command w env t words).exit = .crashed (.plan fault)) := by
  refine ⟨fun plan => isSound_of_planOf, fun fault => isOverflow_iff, fun hoverflows => ?_,
    fun w env loaded fault hkey hload hchosen hfault => ?_⟩
  · obtain ⟨overflow, hplan, -⟩ := planOf_of_overflows hoverflows t
    exact ⟨overflow, hplan⟩
  · have hcommand := command_of_fault h hkey hload hchosen hfault w
    have hreported := isReported_iff hfault
    by_cases hoverflows : a.ExpiryOverflows
    · rw [if_neg (mt hreported.mp (not_not_intro hoverflows))] at hcommand
      rw [hcommand]
      exact ⟨iff_of_false (by rintro ⟨⟩) (not_not_intro hoverflows),
        fun hno => absurd hoverflows hno, fun _ => rfl⟩
    · rw [if_pos (hreported.mpr hoverflows)] at hcommand
      rw [hcommand]
      exact ⟨iff_of_true rfl hoverflows, fun _ => rfl, fun hyes => absurd hyes hoverflows⟩

/-! ### An expiry that is too short, and one that is no length of time -/

section

open Pipeline

/-- No seconds at all are too few, and the program says so. -/
theorem malformed_arguments_reported_zero :
    command Sample.surroundings Sample.environment {} ["-k", "a.txt", "-e", "0"] =
      complain {} "Invalid arguments: --expires must be between 1 and 604800 seconds" := by
  have hwords : readArguments ["-k", "a.txt", "-e", "0"] =
      .ok { key := some "a.txt", expires := some 0 } := by
    decide +kernel
  have hno : ¬Arguments.ExpiryOverflows { key := some "a.txt", expires := some 0 } := by
    rintro ⟨n, hn, hrange⟩
    cases hn
    exact hrange (by decide)
  obtain ⟨-, -, -, hanswer⟩ := malformed_arguments_reported hwords {}
  obtain ⟨-, hcomplaint, -⟩ := hanswer Sample.surroundings Sample.environment
    [("main", Sample.quarterHour)] .expiryRange (by decide) rfl (List.cons_ne_nil _ _) rfl
  exact (hcomplaint hno).trans rfl

/-- A thousand million days are accepted as an argument, but they are no length of time, and the
program crashes over them. -/
theorem malformed_arguments_crash :
    ∃ a, readArguments ["-k", "a.txt", "-e", "86400000000000"] = .ok a ∧
      (∀ t, planOf a t = .error (.expiryOverflow (.tooManyDays 1000000000))) ∧
      (PlanFault.expiryOverflow (.tooManyDays 1000000000)).isOverflow = true ∧
      (command Sample.surroundings Sample.environment {}
        ["-k", "a.txt", "-e", "86400000000000"]).exit =
          .crashed (.plan (.expiryOverflow (.tooManyDays 1000000000))) := by
  have hwords : readArguments ["-k", "a.txt", "-e", "86400000000000"] =
      .ok { key := some "a.txt", expires := some 86400000000000 } := by
    decide +kernel
  have hplan (t : Files.Tree) : planOf { key := some "a.txt", expires := some 86400000000000 } t =
      .error (.expiryOverflow (.tooManyDays 1000000000)) := rfl
  have hload : Provider.load Sample.environment {} "config.json" =
      .ok [("main", Sample.quarterHour)] := rfl
  refine ⟨_, hwords, hplan, rfl, ?_⟩
  rw [command_of_fault hwords (by decide) hload (List.cons_ne_nil _ _) (hplan {})]
  rfl

end

end UrlSigning.CommandLine
