import Mathlib.Data.List.Forall2
import UrlSigning.Retry

/-!
# What attempts come to

A strategy without retries makes one attempt and comes to what that came to. Attempts that cannot be
told apart by their results come to the same under every strategy, with the same delays.

`Loops` is the loop of attempts as such, with no bound on them: whatever it comes to, `run` comes to
(`loops_run_iff`). A `Course` says how attempts were made: which numbers they had, why there was
another one after each of them, and what the last one made of the whole. Every run has one that
begins with the first attempt and ends within the number that the strategy allows. Who makes the
attempts may count them as well; `drive_eq_run` says that the two counts never part.
-/

namespace UrlSigning.Retry

variable {α β : Type}

@[simp] theorem run_once (allowed : Bool) (result : β → Except Failure α) (make : Nat → β) :
    run (.once allowed) result make = ⟨result (make 1), [make 1], []⟩ := by
  show runFrom (.once allowed) result make 1 1 = _
  rw [runFrom]
  cases result (make 1) <;> rfl

/-- Attempts that agree number by number, where agreement keeps the result, come to the same. -/
theorem runFrom_agree {R : β → β → Prop} {result : β → Except Failure α} {make make' : Nat → β}
    (hmake : ∀ n, R (make n) (make' n)) (hresult : ∀ p q, R p q → result p = result q)
    (s : Strategy) (attempt fuel : Nat) :
    (runFrom s result make attempt fuel).result = (runFrom s result make' attempt fuel).result ∧
      (runFrom s result make attempt fuel).delays = (runFrom s result make' attempt fuel).delays ∧
        List.Forall₂ R (runFrom s result make attempt fuel).passes
          (runFrom s result make' attempt fuel).passes := by
  induction fuel generalizing attempt with
  | zero => exact ⟨rfl, rfl, .nil⟩
  | succ fuel ih =>
      have hone := List.Forall₂.cons (hmake attempt) .nil
      -- the strategy decides on the result and the number alone, which are the same
      rw [runFrom, runFrom, ← hresult _ _ (hmake attempt)]
      rcases result (make attempt) with e | value
      · dsimp only
        rcases s.decide attempt e with e' | _ | _ | delay
        · exact ⟨rfl, rfl, hone⟩
        · exact ⟨rfl, rfl, hone⟩
        · exact ⟨rfl, rfl, hone⟩
        · -- the attempts that are left agree as well
          obtain ⟨hr, hd, hp⟩ := ih (attempt + 1)
          exact ⟨hr, congrArg (delay :: ·) hd, .cons (hmake attempt) hp⟩
      · exact ⟨rfl, rfl, hone⟩

/-! ## The course of attempts -/

/-- What attempts come to when the last of them, which has this number, came to `last`. -/
inductive Ends (s : Strategy) (attempt : Nat) : (last whole : Except Failure α) → Prop where
  | success (value : α) : Ends s attempt (.ok value) (.ok value)
  | unchanged {e : Failure} (h : s.decide attempt e = .ok .stop) :
      Ends s attempt (.error e) (.error e)
  | exhausted {e : Failure} (h : s.decide attempt e = .ok .exhausted) :
      Ends s attempt (.error e)
        (.error (.exhausted s!"Operation failed after {attempt} attempts" attempt (some e)))

/-- Only success is success in the end. -/
theorem Ends.eq_ok {s : Strategy} {attempt : Nat} {last : Except Failure α} {value : α}
    (h : Ends s attempt last (.ok value)) : last = .ok value := by
  cases h
  rfl

/-- How attempts were made: they have the numbers from `first` to `last`, and each but the last one
failed with what the strategy, told its number, would have tried again after the delay there was. -/
structure Course (s : Strategy) (result : β → Except Failure α) (make : Nat → β)
    (first last : Nat) (o : Outcome α β) : Prop where
  passes : o.passes = (List.range' first (last + 1 - first)).map make
  pauses : o.delays.length = last - first
  retried : ∀ attempt, first ≤ attempt → attempt < last → ∃ e delay,
    result (make attempt) = .error e ∧ s.decide attempt e = .ok (.retry delay) ∧
      o.delays[attempt - first]? = some delay
  ends : Ends s last (result (make last)) o.result

theorem maxAttempts_pos (s : Strategy) : 0 < s.maxAttempts := by
  cases s with
  | once allowed => exact Nat.one_pos
  | standard schedule => exact schedule.positive

/-- If the first attempt succeeds, it is the last one. -/
theorem result_run_of_first {s : Strategy} {result : β → Except Failure α} {make : Nat → β}
    {value : α} (h : result (make 1) = .ok value) : (run s result make).result = .ok value := by
  obtain ⟨fuel, hfuel⟩ := Nat.exists_eq_succ_of_ne_zero (Nat.ne_of_gt (maxAttempts_pos s))
  rw [run, hfuel, runFrom, h]

/-- The delay after an attempt is the entry of its number or, when there are fewer, the last one. -/
theorem delay?_eq (schedule : Schedule) {attempt : Nat} (h : 0 < attempt) :
    schedule.delay? attempt = schedule.delays[min attempt schedule.delays.length - 1]? := by
  have hlength := List.length_pos_iff.mpr schedule.nonempty
  have hplace : (0 : Int) ≤ min ((attempt : Int) - 1) (schedule.delays.length - 1) := by omega
  have hindex : (min ((attempt : Int) - 1) (schedule.delays.length - 1)).toNat =
      min attempt schedule.delays.length - 1 := by omega
  rw [Schedule.delay?, if_pos hplace, hindex]

theorem exists_delay? (schedule : Schedule) {attempt : Nat} (h : 0 < attempt) :
    ∃ delay, schedule.delay? attempt = some delay := by
  have hlength := List.length_pos_iff.mpr schedule.nonempty
  rw [delay?_eq schedule h]
  exact ⟨_, List.getElem?_eq_getElem (by omega)⟩

/-- A strategy that is asked about an attempt always answers, and only says that there is another
one if one is left. -/
theorem exists_decide (s : Strategy) {attempt : Nat} (h : 0 < attempt) (e : Failure) :
    ∃ decision, s.decide attempt e = .ok decision ∧
      ∀ delay, decision = .retry delay → attempt < s.maxAttempts := by
  cases s with
  | once allowed => exact ⟨.stop, rfl, by rintro delay ⟨⟩⟩
  | standard schedule =>
      rw [Strategy.decide]
      split
      · exact ⟨.stop, rfl, by rintro delay ⟨⟩⟩
      · split
        · exact ⟨.exhausted, rfl, by rintro delay ⟨⟩⟩
        · next hleft =>
            obtain ⟨delay, hdelay⟩ := exists_delay? schedule h
            rw [hdelay]
            refine ⟨.retry delay, rfl, fun _ _ => ?_⟩
            show attempt < schedule.maxAttempts
            omega

/-- One attempt that is not tried again is a course of its own. -/
theorem course_of_ends {s : Strategy} {result : β → Except Failure α} {make : Nat → β}
    {attempt : Nat} {whole : Except Failure α}
    (h : Ends s attempt (result (make attempt)) whole) :
    Course s result make attempt attempt ⟨whole, [make attempt], []⟩ where
  passes := by simp
  pauses := by simp
  retried a hfirst hlast := absurd hfirst (Nat.not_le_of_lt hlast)
  ends := h

/-- An attempt that is tried again goes before the course of those that follow. -/
theorem Course.cons {s : Strategy} {result : β → Except Failure α} {make : Nat → β}
    {attempt last : Nat} {e : Failure} {delay : Int} {o : Outcome α β}
    (h : Course s result make (attempt + 1) last o) (hlast : attempt + 1 ≤ last)
    (he : result (make attempt) = .error e) (hretry : s.decide attempt e = .ok (.retry delay)) :
    Course s result make attempt last ⟨o.result, make attempt :: o.passes, delay :: o.delays⟩ where
  passes := by
    have hnumbers : last + 1 - attempt = (last + 1 - (attempt + 1)) + 1 := by omega
    rw [hnumbers, List.range'_succ, List.map_cons, ← h.passes]
  pauses := by
    rw [List.length_cons, h.pauses]
    omega
  retried a hfirst hlt := by
    rcases Nat.eq_or_lt_of_le hfirst with rfl | hnext
    · exact ⟨e, delay, he, hretry, by simp⟩
    · obtain ⟨e', delay', he', hretry', hdelay'⟩ := h.retried a hnext hlt
      refine ⟨e', delay', he', hretry', ?_⟩
      have hplace : a - attempt = (a - (attempt + 1)) + 1 := by omega
      rw [hplace, List.getElem?_cons_succ]
      exact hdelay'
  ends := h.ends

/-! ## The loop -/

/-- The loop of attempts, with no bound on them, comes from this number on to this outcome. -/
inductive Loops (s : Strategy) (result : β → Except Failure α) (make : Nat → β) :
    Nat → Outcome α β → Prop where
  | last {attempt : Nat} {whole : Except Failure α}
      (h : Ends s attempt (result (make attempt)) whole) :
      Loops s result make attempt ⟨whole, [make attempt], []⟩
  /-- The strategy fails to answer. -/
  | undecided {attempt : Nat} {e e' : Failure} (he : result (make attempt) = .error e)
      (h : s.decide attempt e = .error e') :
      Loops s result make attempt ⟨.error e', [make attempt], []⟩
  | again {attempt : Nat} {e : Failure} {delay : Int} {o : Outcome α β}
      (he : result (make attempt) = .error e) (h : s.decide attempt e = .ok (.retry delay))
      (hrest : Loops s result make (attempt + 1) o) :
      Loops s result make attempt ⟨o.result, make attempt :: o.passes, delay :: o.delays⟩

section

variable {s : Strategy} {result : β → Except Failure α} {make : Nat → β} {first fuel : Nat}

/-- With fuel for all attempts that are left, the loop comes to what they come to. -/
theorem loops_runFrom (hfirst : 0 < first) (hfuel : 0 < fuel)
    (hleft : first + fuel = s.maxAttempts + 1) :
    Loops s result make first (runFrom s result make first fuel) := by
  induction fuel generalizing first with
  | zero => exact absurd hfuel (Nat.lt_irrefl 0)
  | succ fuel ih =>
      rw [runFrom]
      dsimp only
      rcases hresult : result (make first) with e | value
      · dsimp only
        obtain ⟨decision, hdecision, hmore⟩ := exists_decide s hfirst e
        rw [hdecision]
        cases decision with
        | stop => exact .last (by rw [hresult]; exact .unchanged hdecision)
        | exhausted => exact .last (by rw [hresult]; exact .exhausted hdecision)
        | retry delay =>
            -- one attempt more is allowed, and there is fuel for it
            have hlt := hmore delay rfl
            exact .again hresult hdecision (ih (Nat.succ_pos first) (by omega) (by omega))
      · exact .last (by rw [hresult]; exact .success value)

/-- The loop does not come to anything else. -/
theorem Loops.eq_runFrom {o : Outcome α β} (h : Loops s result make first o) (hfirst : 0 < first)
    (hfuel : 0 < fuel) (hleft : first + fuel = s.maxAttempts + 1) :
    o = runFrom s result make first fuel := by
  induction h generalizing fuel with
  | @last attempt whole h =>
      obtain ⟨fuel, rfl⟩ := Nat.exists_eq_succ_of_ne_zero (Nat.ne_of_gt hfuel)
      rw [runFrom]
      generalize result (make attempt) = last at h
      cases h with
      | success value => rfl
      | unchanged h =>
          dsimp only
          rw [h]
      | exhausted h =>
          dsimp only
          rw [h]
  | @undecided attempt e e' he h =>
      obtain ⟨fuel, rfl⟩ := Nat.exists_eq_succ_of_ne_zero (Nat.ne_of_gt hfuel)
      rw [runFrom, he]
      dsimp only
      rw [h]
  | @again attempt e delay o he h hrest ih =>
      obtain ⟨fuel, rfl⟩ := Nat.exists_eq_succ_of_ne_zero (Nat.ne_of_gt hfuel)
      obtain ⟨decision, hdecision, hmore⟩ := exists_decide s hfirst e
      cases hdecision.symm.trans h
      have hlt := hmore delay rfl
      have hleft : attempt + 1 + fuel = s.maxAttempts + 1 := by omega
      have hall := ih (Nat.succ_pos attempt) (by omega) hleft
      rw [runFrom, he]
      dsimp only
      rw [h, hall]

end

/-- The loop ends, and `run` is what it comes to. -/
theorem loops_run_iff (s : Strategy) (result : β → Except Failure α) (make : Nat → β)
    (o : Outcome α β) : Loops s result make 1 o ↔ o = run s result make := by
  have hleft : 1 + s.maxAttempts = s.maxAttempts + 1 := Nat.add_comm 1 _
  constructor
  · intro h
    exact h.eq_runFrom Nat.one_pos (maxAttempts_pos s) hleft
  · rintro rfl
    exact loops_runFrom Nat.one_pos (maxAttempts_pos s) hleft

/-- However the loop comes to an end, its attempts have a course. -/
theorem Loops.course {s : Strategy} {result : β → Except Failure α} {make : Nat → β} {first : Nat}
    {o : Outcome α β} (h : Loops s result make first o) (hfirst : 0 < first)
    (hmost : first ≤ s.maxAttempts) :
    ∃ last, first ≤ last ∧ last ≤ s.maxAttempts ∧ Course s result make first last o := by
  induction h with
  | @last attempt whole h => exact ⟨attempt, Nat.le_refl attempt, hmost, course_of_ends h⟩
  | @undecided attempt e e' he h =>
      obtain ⟨decision, hdecision, -⟩ := exists_decide s hfirst e
      cases hdecision.symm.trans h
  | @again attempt e delay o he h hrest ih =>
      obtain ⟨decision, hdecision, hmore⟩ := exists_decide s hfirst e
      cases hdecision.symm.trans h
      obtain ⟨last, hle, hlast, hcourse⟩ := ih (Nat.succ_pos attempt) (hmore delay rfl)
      exact ⟨last, by omega, hlast, hcourse.cons hle he h⟩

theorem course_run (s : Strategy) (result : β → Except Failure α) (make : Nat → β) :
    ∃ last, 1 ≤ last ∧ last ≤ s.maxAttempts ∧
      Course s result make 1 last (run s result make) :=
  ((loops_run_iff s result make _).mpr rfl).course Nat.one_pos (maxAttempts_pos s)

/-! ## Counting twice -/

/-- Makes attempts by a function with a state of its own, while the strategy is told the numbers
that are counted here. -/
def driveFrom {σ : Type} (s : Strategy) (result : β → Except Failure α) (call : σ → β × σ)
    (attempt : Nat) : Nat → σ → Outcome α β
  | 0, _ => ⟨.error .noDelay, [], []⟩
  | fuel + 1, state =>
    let (pass, state) := call state
    match result pass with
    | .ok value => ⟨.ok value, [pass], []⟩
    | .error e =>
      match s.decide attempt e with
      | .error e => ⟨.error e, [pass], []⟩
      | .ok .stop => ⟨.error e, [pass], []⟩
      | .ok .exhausted =>
        ⟨.error (.exhausted s!"Operation failed after {attempt} attempts" attempt (some e)), [pass],
          []⟩
      | .ok (.retry delay) =>
        let rest := driveFrom s result call (attempt + 1) fuel state
        ⟨rest.result, pass :: rest.passes, delay :: rest.delays⟩

/-- Makes attempts by a function with a state of its own. -/
def drive {σ : Type} (s : Strategy) (result : β → Except Failure α) (call : σ → β × σ)
    (state : σ) : Outcome α β :=
  driveFrom s result call 1 s.maxAttempts state

/-- A function that counts its calls and makes the attempt with the number of the call. -/
def counting (make : Nat → β) (counted : Nat) : β × Nat :=
  (make (counted + 1), counted + 1)

/-- However many attempts there were, both counts are the same at the next one. -/
theorem driveFrom_eq_runFrom (s : Strategy) (result : β → Except Failure α) (make : Nat → β)
    (counted fuel : Nat) :
    driveFrom s result (counting make) (counted + 1) fuel counted =
      runFrom s result make (counted + 1) fuel := by
  induction fuel generalizing counted with
  | zero => rfl
  | succ fuel ih =>
      rw [driveFrom, runFrom, counting]
      dsimp only
      rcases result (make (counted + 1)) with e | value
      · dsimp only
        rcases s.decide ((counted + 1 : Nat) : Int) e with e' | decision
        · rfl
        · cases decision with
          | stop => rfl
          | exhausted => rfl
          | retry delay =>
              dsimp only
              rw [ih (counted + 1)]
      · rfl

theorem drive_eq_run (s : Strategy) (result : β → Except Failure α) (make : Nat → β) :
    drive s result (counting make) 0 = run s result make :=
  driveFrom_eq_runFrom s result make 0 s.maxAttempts

end UrlSigning.Retry
