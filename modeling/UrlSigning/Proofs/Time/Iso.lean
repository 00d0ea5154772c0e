import Mathlib.Data.List.Induction
import UrlSigning.Proofs.Time.Calendar
import UrlSigning.Time.Iso

/-!
# Texts that are no dates

A text that does not give a date and time of day is refused by name of what is wrong with it. It
never leads out of the calendar: each part has been checked by then, and no more than six digits
count for the parts of a second.
-/

namespace UrlSigning.Time.Iso

theorem ofDigitChars_lt {cs : List Char} (h : ∀ c ∈ cs, c.isDigit = true) :
    Nat.ofDigitChars 10 cs 0 < 10 ^ cs.length := by
  induction cs using List.reverseRecOn with
  | nil => exact Nat.one_pos
  | append_singleton cs c ih =>
      obtain ⟨hcs, hc⟩ := List.forall_mem_append.mp h
      have hdigit := Char.isDigit_iff_toNat.mp (hc c (List.mem_singleton_self c))
      have hbound := ih hcs
      rw [Nat.ofDigitChars_append, Nat.ofDigitChars_cons, Nat.ofDigitChars_nil, List.length_append,
        List.length_singleton, Nat.pow_succ]
      have hnine : c.toNat - '0'.toNat ≤ 9 := Nat.sub_le_of_le_add hdigit.2
      omega

variable {count n : Nat} {cs rest : List Char}

theorem readNumber_lt (h : readNumber count cs = some (n, rest)) : n < 10 ^ count := by
  unfold readNumber at h
  dsimp only at h
  split at h
  · next hds =>
      cases h
      have hbound := ofDigitChars_lt (List.all_eq_true.mp hds.2)
      rwa [hds.1] at hbound
  · cases h

/-! ## Parts of a second -/

section

variable {hour minute second length : Nat} {t : TimeText}

/-- Six digits at most are read as microseconds. -/
theorem micro_lt_of_readFraction (h : readFraction hour minute second length cs = some t) :
    t.micro < 1000000 := by
  obtain ⟨⟨n, rest⟩, hn, h⟩ := Option.bind_eq_some_iff.mp h
  cases h
  have hsum : 10 ^ min length 6 * 10 ^ (6 - min length 6) = 1000000 := by
    rw [← Nat.pow_add, Nat.add_sub_cancel' (Nat.min_le_right length 6)]
  calc n * 10 ^ (6 - min length 6)
      < 10 ^ min length 6 * 10 ^ (6 - min length 6) :=
        Nat.mul_lt_mul_of_pos_right (readNumber_lt hn) (Nat.pow_pos (by decide))
    _ = 1000000 := hsum

theorem micro_lt_of_readClock {values : List Nat} {colons : Bool} {fuel : Nat}
    (h : readClock values colons length cs fuel = some t) : t.micro < 1000000 := by
  induction fuel generalizing values colons length cs with
  | zero => exact micro_lt_of_readFraction h
  | succ fuel ih =>
      obtain ⟨⟨n, rest⟩, -, h⟩ := Option.bind_eq_some_iff.mp h
      dsimp only at h
      -- the clock ends here, goes on with another number, or with the parts of a second
      split_ifs at h
      all_goals first
        | exact ih h
        | exact micro_lt_of_readFraction h
        | cases h
      exact Nat.succ_pos _

theorem micro_lt_of_readTimeAndOffset {offset : Option Int}
    (h : readTimeAndOffset cs = some (t, offset)) : t.micro < 1000000 := by
  obtain ⟨time, htime, h⟩ := Option.bind_eq_some_iff.mp h
  have hmicro := micro_lt_of_readClock htime
  split at h
  · split at h
    · cases h
    · cases h
      exact hmicro
  · split at h
    · cases h
      exact hmicro
    · cases h
  · obtain ⟨o, -, h⟩ := Option.bind_eq_some_iff.mp h
    split at h
    · cases h
    · cases h
      exact hmicro

theorem micro_lt_of_readParts {date : Parts} {offset : Option Int}
    (h : readParts cs = some (date, some (t, offset))) : t.micro < 1000000 := by
  obtain ⟨length, -, h⟩ := Option.bind_eq_some_iff.mp h
  obtain ⟨read, -, h⟩ := Option.bind_eq_some_iff.mp h
  split at h
  · cases h
  · obtain ⟨time, htime, h⟩ := Option.bind_eq_some_iff.mp h
    cases h
    exact micro_lt_of_readTimeAndOffset htime

end

/-! ## Faults -/

/-- What is wrong with a text is never that a number is out of its range. -/
theorem isOverflow_of_read {s : String} {fault : Fault} (h : read s = .error fault) :
    fault.isOverflow = false := by
  unfold read at h
  split at h
  · cases h
    rfl
  · exact DateTime.isOverflow_of_ofParts (by decide) h
  · next t offset hparts =>
      have hmicro := micro_lt_of_readParts hparts
      rcases offset with _ | micros
      · exact DateTime.isOverflow_of_ofParts hmicro h
      · rcases bind_eq_error.mp h with h | ⟨offset, -, h⟩
        · have hoffset := map_eq_error.mp h
          rw [Offset.ofMicros] at hoffset
          split at hoffset <;> cases hoffset
          rfl
        · exact DateTime.isOverflow_of_ofParts hmicro h

end UrlSigning.Time.Iso
