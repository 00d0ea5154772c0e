import UrlSigning.Proofs.Retry

/-!
# Keeping to a schedule

Attempts under a schedule go on until one of them settles the matter: it succeeds, or it fails with
what is not tried again. If that is one of the attempts that the schedule allows, what it came to is
what they all come to. If not, all of them are made and the failure of the last one is reported as
exhaustion. Between two attempts there is one pause, whose length is the entry of its number or,
when the entries run out, the last one.
-/

namespace UrlSigning.Retry

variable {α β : Type}

/-- Success settles the matter, and so does a failure that is not tried again. -/
def Settles (retries : Failure → Bool) (outcome : Except Failure α) : Prop :=
  ∀ e, outcome = .error e → retries e = false

/-- The number is that of the first attempt, counted from one, that settles the matter. -/
structure IsFirstSettled (retries : Failure → Bool) (outcomes : Nat → Except Failure α)
    (number : Nat) : Prop where
  pos : 0 < number
  settles : Settles retries (outcomes number)
  before : ∀ i, 0 < i → i < number → ¬Settles retries (outcomes i)

section

variable {schedule : Schedule} {result : β → Except Failure α} {make : Nat → β}
  {attempt last : Nat} {o : Outcome α β}

/-- What a schedule decides after a failed attempt, and why. -/
theorem decide_standard_cases {e : Failure} {decision : Decision}
    (h : (Strategy.standard schedule).decide attempt e = .ok decision) :
    (decision = .stop ∧ schedule.retries e = false) ∨
      (decision = .exhausted ∧ schedule.retries e = true ∧ schedule.maxAttempts ≤ attempt) ∨
        ∃ delay, decision = .retry delay ∧ schedule.retries e = true ∧
          schedule.delay? attempt = some delay := by
  rw [Strategy.decide] at h
  by_cases hretries : schedule.retries e = true
  · rw [if_neg (by simp [hretries])] at h
    split at h
    · next hmost =>
        cases h
        exact .inr (.inl ⟨rfl, hretries, by omega⟩)
    · split at h
      · next delay hdelay =>
          cases h
          exact .inr (.inr ⟨delay, rfl, hretries, hdelay⟩)
      · cases h
  · rw [if_pos (by simp [hretries])] at h
    cases h
    exact .inl ⟨rfl, by simpa using hretries⟩

theorem not_settles {retries : Failure → Bool} {outcome : Except Failure α} {e : Failure}
    (he : outcome = .error e) (h : retries e = true) : ¬Settles retries outcome := by
  intro hsettles
  cases (hsettles e he).symm.trans h

/-- An attempt that is followed by another one has not settled the matter, and the pause after it is
the one of the schedule. -/
theorem Course.again (h : Course (.standard schedule) result make 1 last o) (hpos : 0 < attempt)
    (hlast : attempt < last) :
    ¬Settles schedule.retries (result (make attempt)) ∧
      o.delays[attempt - 1]? = schedule.delays[min attempt schedule.delays.length - 1]? := by
  obtain ⟨e, delay, he, hretry, hdelay⟩ := h.retried attempt hpos hlast
  obtain ⟨h, -⟩ | ⟨h, -⟩ | ⟨delay', h, hretries, hdelay'⟩ := decide_standard_cases hretry
  · cases h
  · cases h
  · cases h
    refine ⟨not_settles he hretries, ?_⟩
    rw [hdelay, ← delay?_eq schedule hpos, hdelay']

/-- The last attempt settles the matter and decides the whole, or it is the last one allowed. -/
theorem Course.at_end (h : Course (.standard schedule) result make 1 last o)
    (hmost : last ≤ schedule.maxAttempts) :
    (Settles schedule.retries (result (make last)) ∧ o.result = result (make last)) ∨
      (last = schedule.maxAttempts ∧ ∃ e, result (make last) = .error e ∧
        schedule.retries e = true ∧ o.result =
          .error (.exhausted s!"Operation failed after {last} attempts" last (some e))) := by
  have hends := h.ends
  generalize result (make last) = outcome at hends ⊢
  generalize o.result = whole at hends ⊢
  cases hends with
  | success value => exact .inl ⟨by rintro e ⟨⟩, rfl⟩
  | @unchanged e hstop =>
      obtain ⟨-, hretries⟩ | ⟨h, -⟩ | ⟨delay, h, -⟩ := decide_standard_cases hstop
      · refine .inl ⟨?_, rfl⟩
        intro e' he'
        cases he'
        exact hretries
      · cases h
      · cases h
  | @exhausted e hexhausted =>
      obtain ⟨h, -⟩ | ⟨-, hretries, hall⟩ | ⟨delay, h, -⟩ := decide_standard_cases hexhausted
      · cases h
      · exact .inr ⟨Nat.le_antisymm hmost hall, e, rfl, hretries, rfl⟩
      · cases h

/-- An attempt that settles the matter is the last one. -/
theorem Course.of_settles (h : Course (.standard schedule) result make 1 last o)
    (hmost : last ≤ schedule.maxAttempts) (hpos : 0 < attempt) (hle : attempt ≤ last)
    (hsettles : Settles schedule.retries (result (make attempt))) :
    last = attempt ∧ o.result = result (make attempt) := by
  rcases Nat.eq_or_lt_of_le hle with rfl | hlt
  · rcases h.at_end hmost with ⟨-, hwhole⟩ | ⟨-, e, he, hretries, -⟩
    · exact ⟨rfl, hwhole⟩
    · exact absurd hsettles (not_settles he hretries)
  · exact absurd hsettles (h.again hpos hlt).1

/-- After an attempt that does not settle the matter there is another one, unless it was the last
one allowed. -/
theorem Course.of_retried (h : Course (.standard schedule) result make 1 last o)
    (hmost : last ≤ schedule.maxAttempts) {e : Failure} (hle : attempt ≤ last)
    (he : result (make attempt) = .error e) (hretries : schedule.retries e = true) :
    attempt < last ∨
      (last = attempt ∧ attempt = schedule.maxAttempts ∧ o.result =
        .error (.exhausted s!"Operation failed after {attempt} attempts" attempt (some e))) := by
  rcases Nat.eq_or_lt_of_le hle with rfl | hlt
  · rcases h.at_end hmost with ⟨hsettles, -⟩ | ⟨hlast, e', he', -, hwhole⟩
    · exact absurd hsettles (not_settles he hretries)
    · cases he.symm.trans he'
      exact .inr ⟨rfl, hlast, hwhole⟩
  · exact .inl hlt

end

/-- A number of attempts and delays make a schedule, and attempts come to an end under it. Let the
attempt with some number be the first that settles the matter. If so many attempts are allowed, just
these are made, and they come to what that one came to. Otherwise all that are allowed are made, and
they come to exhaustion with their number and the failure of the last of them. In either case there
is one pause after each attempt but the last, and it is the entry of its number or the last entry;
without any entries there is one of zero. -/
theorem standard_keeps_schedule {n : Nat} (hn : 1 ≤ n) (delays : List Int)
    (retries : Failure → Bool) (result : β → Except Failure α) (make : Nat → β) :
    ∃ schedule o, Schedule.make n delays retries = .ok schedule ∧
      o = run (.standard schedule) result make ∧
      (∀ o', Loops (.standard schedule) result make 1 o' ↔ o' = o) ∧
      (∀ j, IsFirstSettled retries (fun i => result (make i)) j → j ≤ n →
        o.passes = (List.range' 1 j).map make ∧ o.result = result (make j)) ∧
      ((∀ j, IsFirstSettled retries (fun i => result (make i)) j → n < j) →
        o.passes = (List.range' 1 n).map make ∧ ∃ e, result (make n) = .error e ∧
          o.result = .error (.exhausted s!"Operation failed after {n} attempts" n (some e))) ∧
      o.delays.length + 1 = o.passes.length ∧
      ∀ i, 1 ≤ i → i < o.passes.length →
        o.delays[i - 1]? = (orZero delays)[min i (orZero delays).length - 1]? := by
  let schedule : Schedule := ⟨n, orZero delays, retries, hn, orZero_ne_nil delays⟩
  have hmake : Schedule.make n delays retries = .ok schedule := by
    rw [Schedule.make, dif_pos (by omega)]
    rfl
  obtain ⟨last, hfirst, hmost, hcourse⟩ := course_run (.standard schedule) result make
  have hpasses := hcourse.passes
  have hlength : (run (.standard schedule) result make).passes.length = last := by
    rw [hpasses, List.length_map, List.length_range']
    omega
  have hpauses := hcourse.pauses
  rw [Nat.add_sub_cancel] at hpasses
  have hend := hcourse.at_end hmost
  refine ⟨schedule, _, hmake, rfl, loops_run_iff _ result make, ?_, ?_, by omega, ?_⟩
  · intro j hj hjn
    -- no attempt before the last one has settled the matter, and none before number `j`
    have hle : last ≤ j := by
      by_contra hlt
      exact (hcourse.again hj.pos (by omega)).1 hj.settles
    rcases hend with ⟨hsettles, hwhole⟩ | ⟨hlast, e, he, hretries, -⟩
    · have heq : last = j := by
        by_contra hne
        exact hj.before last hfirst (by omega) hsettles
      rw [← heq]
      exact ⟨hpasses, hwhole⟩
    · have hall : j ≤ last := hlast ▸ hjn
      obtain rfl := Nat.le_antisymm hle hall
      exact absurd hj.settles (not_settles he hretries)
  · intro hnone
    rcases hend with ⟨hsettles, -⟩ | ⟨hlast, e, he, -, hwhole⟩
    · have hlater := hnone last
        ⟨hfirst, hsettles, fun i hi hlt => (hcourse.again hi hlt).1⟩
      exact absurd hmost (Nat.not_le_of_lt hlater)
    · change last = n at hlast
      rw [← hlast]
      exact ⟨hpasses, e, he, hwhole⟩
  · intro i hi hlt
    exact (hcourse.again hi (hlength ▸ hlt)).2

/-- The connection is refused until the third time. -/
def Sample.thirdTime : Nat → Except Failure String
  | 3 => .ok "done"
  | _ => .error (.raised .connect "connection refused")

/-- With a single delay, that is the pause after each of the first two attempts. -/
theorem standard_keeps_schedule_third : 1 ≤ 5 ∧
    ∃ schedule o, Schedule.make 5 [200] isPassing = .ok schedule ∧
      o = run (.standard schedule) id Sample.thirdTime ∧
      o.passes = [Sample.thirdTime 1, Sample.thirdTime 2, Sample.thirdTime 3] ∧
      o.result = .ok "done" ∧ o.delays[0]? = some 200 ∧ o.delays[1]? = some 200 := by
  obtain ⟨schedule, o, hmake, ho, -, hsettled, -, -, hpauses⟩ :=
    standard_keeps_schedule (n := 5) (by decide) [200] isPassing id Sample.thirdTime
  have hfirst : IsFirstSettled isPassing Sample.thirdTime 3 := by
    refine ⟨by decide, ?_, ?_⟩
    · rintro e ⟨⟩
    · intro i hpos hlt
      obtain rfl | rfl : i = 1 ∨ i = 2 := by omega
      · exact not_settles rfl rfl
      · exact not_settles rfl rfl
  obtain ⟨hpasses, hresult⟩ := hsettled 3 hfirst (by decide)
  have hlength : o.passes.length = 3 := by
    rw [hpasses]
    rfl
  exact ⟨by decide, schedule, o, hmake, ho, hpasses, hresult,
    hpauses 1 (by decide) (by omega), hpauses 2 (by decide) (by omega)⟩

/-! ## Attempt by attempt -/

/-- At most `n` attempts were made, with a pause between any two, and what each of them came to
decided what followed. -/
structure GoesBy (n : Nat) (delays : List Int) (retries : Failure → Prop)
    (outcomes : Nat → Except Failure α) (o : Outcome α β) : Prop where
  made : 1 ≤ o.passes.length ∧ o.passes.length ≤ n
  pauses : o.delays.length + 1 = o.passes.length
  /-- A success is the last attempt, and it is returned. -/
  success : ∀ i value, 1 ≤ i → i ≤ o.passes.length → outcomes i = .ok value →
    o.passes.length = i ∧ o.result = .ok value
  /-- So is a failure that is not tried again, and it is raised as it is. -/
  unchanged : ∀ i e, 1 ≤ i → i ≤ o.passes.length → outcomes i = .error e → ¬retries e →
    o.passes.length = i ∧ o.result = .error e
  /-- After one that is tried again there is a pause and another attempt. -/
  again : ∀ i e, 1 ≤ i → i ≤ o.passes.length → i < n → outcomes i = .error e → retries e →
    i < o.passes.length ∧
      o.delays[i - 1]? = (orZero delays)[min i (orZero delays).length - 1]?
  /-- After the last one allowed there is not, and the whole is exhausted with its failure. -/
  exhausted : ∀ e, o.passes.length = n → outcomes n = .error e → retries e →
    o.result = .error (.exhausted s!"Operation failed after {n} attempts" n (some e))

theorem exists_make {n : Nat} (hn : 1 ≤ n) (delays : List Int) (retries : Failure → Bool) :
    ∃ schedule, Schedule.make n delays retries = .ok schedule := by
  rw [Schedule.make, dif_pos (by omega)]
  exact ⟨_, rfl⟩

theorem fields_of_make {n : Nat} {delays : List Int} {retries : Failure → Bool}
    {schedule : Schedule} (h : Schedule.make n delays retries = .ok schedule) :
    schedule.maxAttempts = n ∧ schedule.delays = orZero delays ∧ schedule.retries = retries := by
  rw [Schedule.make] at h
  split at h <;> cases h
  exact ⟨Int.toNat_natCast n, rfl, rfl⟩

/-- Every run under a schedule goes by what its attempts come to. -/
theorem goesBy_run {n : Nat} {delays : List Int} {retries : Failure → Bool} {schedule : Schedule}
    (hmake : Schedule.make n delays retries = .ok schedule) (result : β → Except Failure α)
    (make : Nat → β) :
    (∀ pass ∈ (run (.standard schedule) result make).passes, ∃ i, pass = make i) ∧
      GoesBy n delays (fun e => retries e = true) (fun i => result (make i))
        (run (.standard schedule) result make) := by
  obtain ⟨rfl, hdelays, rfl⟩ := fields_of_make hmake
  obtain ⟨last, hfirst, hmost, hcourse⟩ := course_run (.standard schedule) result make
  have hpauses := hcourse.pauses
  have hlength : (run (.standard schedule) result make).passes.length = last := by
    rw [hcourse.passes, List.length_map, List.length_range']
    omega
  refine ⟨?_, ⟨?_, ?_, ?_, ?_, ?_, ?_⟩⟩
  · intro pass hpass
    rw [hcourse.passes] at hpass
    obtain ⟨i, -, hi⟩ := List.mem_map.mp hpass
    exact ⟨i, hi.symm⟩
  · exact ⟨by omega, hlength ▸ hmost⟩
  · omega
  · intro i value hi hle hvalue
    rw [hlength] at hle ⊢
    rw [← hvalue]
    exact hcourse.of_settles hmost hi hle fun e he => by simp [hvalue] at he
  · intro i e hi hle he hno
    rw [hlength] at hle ⊢
    rw [← he]
    refine hcourse.of_settles hmost hi hle fun e' he' => ?_
    cases he.symm.trans he'
    simpa using hno
  · intro i e hi hle hlt he hretries
    rw [hlength] at hle ⊢
    rcases hcourse.of_retried hmost hle he hretries with hnext | ⟨-, hall, -⟩
    · rw [← hdelays]
      exact ⟨hnext, (hcourse.again hi hnext).2⟩
    · exact absurd hall (Nat.ne_of_lt hlt)
  · intro e hall he hretries
    have hlast : last = schedule.maxAttempts := hlength.symm.trans hall
    rw [← hlast] at he ⊢
    rcases hcourse.of_retried hmost (Nat.le_refl last) he hretries with hnext | ⟨-, -, hwhole⟩
    · exact absurd hnext (Nat.lt_irrefl last)
    · exact hwhole

end UrlSigning.Retry
