import UrlSigning.CommandLine.Plan
import UrlSigning.Proofs.Checked
import UrlSigning.Proofs.Time.Written

/-!
# Start times that were written

The texts of dates and times that a report holds can be given as start times: each of them is read
as the time that was written. Without an offset, or with the letter Z in its place, universal time is
meant. An offset of less than a second, which a reader drops, is the only one that does not come
back.
-/

namespace UrlSigning.CommandLine

open Time

theorem readStartTime_of_not_mem {s : String} (h : 'Z' ∉ s.toList) :
    readStartTime s = DateTime.assumeUtc <$> Iso.read s := by
  have hlast : (s.toList.getLast? == some 'Z') = false := by
    rw [beq_eq_false_iff_ne]
    intro hz
    exact h (List.mem_of_getLast? hz)
  unfold readStartTime
  dsimp only
  rw [hlast]
  rfl

/-- The letter Z at the end is read as the offset of universal time. -/
theorem readStartTime_append (s : String) :
    readStartTime (s ++ "Z") = DateTime.assumeUtc <$> Iso.read (s ++ "+00:00") := by
  have hlast : ((s ++ "Z").toList.getLast? == some 'Z') = true := by
    simp
  have htext : String.ofList ((s ++ "Z").toList.dropLast ++ "+00:00".toList) = s ++ "+00:00" := by
    simp
  unfold readStartTime
  dsimp only
  rw [hlast, if_pos rfl, htext]
  rfl

section

variable (d : DateTime)

theorem not_mem_text : 'Z' ∉ (Iso.text d).toList := by
  intro h
  rcases Iso.of_mem_text d h with h | h
  · cases h
  · simp at h

theorem readStartTime_text :
    readStartTime (Iso.text d) = .ok { d with offset := some (d.offset.getD .zero).reread } := by
  rw [readStartTime_of_not_mem (not_mem_text d), Iso.read_text]
  cases d.offset <;> rfl

/-- Universal time is written as the time without an offset and then the offset zero. -/
theorem text_utc :
    Iso.text { d with offset := some .zero } = Iso.text { d with offset := none } ++ "+00:00" := by
  rw [← String.toList_inj, String.toList_append, Iso.toList_text, Iso.toList_text]
  simp only [Iso.zoneText, List.append_nil, List.append_assoc, List.cons_append]
  rfl

theorem readStartTime_utc :
    readStartTime (Iso.text { d with offset := none } ++ "Z") = .ok { d with offset := some .zero } := by
  rw [readStartTime_append, ← text_utc, Iso.read_text]
  rfl

end

/-- A start time that is given as the text of a date and time of day is that time, in universal time
if it has no offset, just when its offset is none or not less than a second; otherwise the clock is
taken for one of universal time. The text of a time without its offset, with the letter Z after it,
is always that time of universal time. -/
theorem startTime_read_again (d : DateTime) :
    (readStartTime (Iso.text d) = .ok d.assumeUtc ↔
      ∀ o, d.offset = some o → o = .zero ∨ 1000000 ≤ o.micros.natAbs) ∧
    (∀ o, d.offset = some o → o.micros.natAbs < 1000000 →
      readStartTime (Iso.text d) = .ok { d with offset := some .zero }) ∧
    readStartTime (Iso.text { d with offset := none } ++ "Z") =
      .ok { d with offset := some .zero } := by
  refine ⟨?_, ?_, readStartTime_utc d⟩
  · rw [readStartTime_text, Except.ok.injEq]
    cases hoffset : d.offset with
    | none => simp [DateTime.assumeUtc, hoffset, Offset.reread_zero]
    | some o =>
        have hutc : d.assumeUtc = { d with offset := some o } := by
          simp [DateTime.assumeUtc, hoffset]
        rw [hutc]
        simp [Offset.reread_eq_self_iff]
  · intro o ho hless
    rw [readStartTime_text, ho]
    simp [Offset.reread, hless]

/-- Half past one in the afternoon on a clock that is a microsecond ahead of universal time. -/
def Sample.ahead : DateTime :=
  ⟨63840490200000000, some ⟨1, by decide⟩, by decide⟩

/-- The offset of this time is in its text, but what is read has none and is another instant. -/
theorem startTime_loses_offset :
    Iso.text Sample.ahead = "2024-01-10T13:30:00+00:00:00.000001" ∧
    ∃ d, readStartTime (Iso.text Sample.ahead) = .ok d ∧
      d.offset = some .zero ∧ d.instant = Sample.ahead.instant + 1 ∧
      readStartTime (Iso.text Sample.ahead) ≠ .ok Sample.ahead.assumeUtc := by
  have hread : readStartTime (Iso.text Sample.ahead) =
      .ok { Sample.ahead with offset := some .zero } :=
    readStartTime_text Sample.ahead
  refine ⟨by decide +kernel, _, hread, rfl, rfl, ?_⟩
  rw [hread]
  decide

end UrlSigning.CommandLine
