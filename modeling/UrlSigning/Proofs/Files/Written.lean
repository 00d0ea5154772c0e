import Mathlib.Data.List.Flatten
import UrlSigning.Proofs.Report.Document
import UrlSigning.Proofs.Text.Cut

/-!
# Files that were written are read

A text names the file to be written as it stands; for reading it is first made a path. That leaves
out slashes and single points, which lead nowhere, so that the path is no longer than the text and
leads to the same file.
-/

namespace UrlSigning

/-! ## The text of a path -/

namespace Text

variable {sep : Char}

theorem joinAll_filter_sublist (keep : List Char → Bool) (parts : List (List Char)) :
    (joinAll sep (parts.filter keep)).Sublist (joinAll sep parts) := by
  induction parts with
  | nil => exact List.Sublist.refl _
  | cons part parts ih =>
      rcases parts with _ | ⟨next, parts⟩
      · cases hkeep : keep part
        · simp [joinAll, hkeep]
        · simp [hkeep]
      · rw [joinAll_cons_cons]
        cases hkeep : keep part
        · rw [List.filter_cons_of_neg (by simp [hkeep])]
          exact (ih.trans (List.sublist_cons_self sep _)).trans (List.sublist_append_right part _)
        · rw [List.filter_cons_of_pos hkeep]
          rcases hrest : (next :: parts).filter keep with _ | ⟨first, rest⟩
          · simp [joinAll]
          · rw [hrest] at ih
            rw [joinAll_cons_cons]
            exact (List.Sublist.refl part).append (ih.cons_cons sep)

end Text

namespace Files.Path

/-- Slashes in front add no names. -/
theorem namesOf_dropWhile (cs : List Char) : namesOf (cs.dropWhile (· == '/')) = namesOf cs := by
  induction cs with
  | nil => rfl
  | cons c cs ih =>
      by_cases hc : c = '/'
      · subst hc
        rw [List.dropWhile_cons_of_pos rfl, ih]
        simp [namesOf, Text.cutAll]
      · rw [List.dropWhile_cons_of_neg (by simpa using hc)]

theorem rootOf_sublist (cs : List Char) :
    (rootOf cs).toList.Sublist (cs.takeWhile (· == '/')) := by
  have hslashes := Text.takeWhile_beq '/' cs
  unfold rootOf
  split
  · exact List.nil_sublist _
  · next htwo =>
      rw [hslashes, htwo]
      exact List.Sublist.refl _
  · next hsome _ =>
      refine List.singleton_sublist.mpr ?_
      rw [hslashes]
      exact List.mem_replicate.mpr ⟨hsome, rfl⟩

theorem names_sublist (cs : List Char) :
    ("/".intercalate ((namesOf cs).filter (· != "."))).toList.Sublist cs := by
  have hparts : ((namesOf cs).filter (· != ".")).map String.toList =
      (Text.cutAll '/' cs).filter fun part => part != ['.'] && !part.isEmpty := by
    rw [namesOf, List.filter_map, List.map_map, List.filter_filter]
    have hid : String.toList ∘ String.ofList = id := funext fun _ => String.toList_ofList
    rw [hid, List.map_id]
    congr 1
    funext part
    have hpoint : (String.ofList part != ".") = (part != ['.']) := by
      rw [Bool.eq_iff_iff, bne_iff_ne, bne_iff_ne, ne_eq, ne_eq, ← String.toList_inj,
        String.toList_ofList]
      rfl
    simp [hpoint]
  rw [String.toList_intercalate, hparts]
  have hsublist : (Text.joinAll '/' ((Text.cutAll '/' cs).filter
      fun part => part != ['.'] && !part.isEmpty)).Sublist (Text.joinAll '/' (Text.cutAll '/' cs)) :=
    Text.joinAll_filter_sublist _ _
  rwa [Text.joinAll_cutAll] at hsublist

/-- A text with neither a root nor a name has a point. -/
theorem mem_of_names_eq_nil {cs : List Char} (hcs : cs ≠ []) (hroot : rootOf cs = "")
    (hnames : (namesOf cs).filter (· != ".") = []) : '.' ∈ cs := by
  obtain ⟨c, rest, rfl⟩ := List.exists_cons_of_ne_nil hcs
  have hc : c ≠ '/' := by
    rintro rfl
    unfold rootOf at hroot
    rw [List.takeWhile_cons_of_pos rfl] at hroot
    split at hroot
    · next hlength => cases hlength
    · exact absurd hroot (by decide)
    · exact absurd hroot (by decide)
  obtain ⟨part, parts, hcut⟩ : ∃ part parts, Text.cutAll '/' (c :: rest) = (c :: part) :: parts := by
    rw [Text.cutAll, if_neg hc]
    split <;> exact ⟨_, _, rfl⟩
  have hname : String.ofList (c :: part) ∈ namesOf (c :: rest) := by
    rw [namesOf, hcut]
    simp
  have hpoint := List.filter_eq_nil_iff.mp hnames _ hname
  rw [Bool.not_eq_true, bne_eq_false_iff_eq, ← String.toList_inj, String.toList_ofList] at hpoint
  cases hpoint
  exact List.mem_cons_self

/-- Making a text a path only leaves out characters. -/
theorem text_ofText_sublist {s : String} (hs : s ≠ "") :
    (ofText s).text.toList.Sublist s.toList := by
  have hne : s.toList ≠ [] := fun h => hs (String.toList_inj.mp h)
  unfold text ofText
  dsimp only
  split
  · next hnowhere =>
      simp only [Bool.and_eq_true, String.isEmpty_iff, List.isEmpty_iff] at hnowhere
      exact List.singleton_sublist.mpr (mem_of_names_eq_nil hne hnowhere.1 hnowhere.2)
  · rw [String.toList_append, ← namesOf_dropWhile]
    have hsublist := (rootOf_sublist s.toList).append (names_sublist (s.toList.dropWhile (· == '/')))
    rwa [List.takeWhile_append_dropWhile] at hsublist

end Files.Path

/-! ## Reading what was written -/

namespace Files.Tree

variable {t t' : Tree} {s : String} {content : Bytes}

theorem checkText_of_sublist {short : String} (hshort : short.toList.Sublist s.toList)
    (h : checkText s = .ok ()) : checkText short = .ok () := by
  unfold checkText at h ⊢
  split at h
  · cases h
  · next hnull =>
      split at h
      · cases h
      · next hlength =>
          have hnull' : short.toList.contains '\x00' = false := by
            rw [Bool.eq_false_iff]
            intro hmem
            exact hnull (List.contains_iff_mem.mpr (hshort.subset (List.contains_iff_mem.mp hmem)))
          have hle : (Text.Utf8.ofString short).length ≤ (Text.Utf8.ofString s).length :=
            (hshort.flatMap Text.Utf8.encodeChar).length_le
          rw [hnull', if_neg Bool.false_ne_true, if_neg (by omega)]

/-- Steps that stay where they are can be left out. -/
theorem follow_filter {start finish : Place} {steps : List String}
    (h : t.follow start steps = .ok finish) :
    t.follow start (steps.filter (· != ".")) = .ok finish := by
  induction steps generalizing start with
  | nil => exact h
  | cons name steps ih =>
      rw [follow] at h
      split at h
      · cases h
      · cases h
      · next hspot =>
          split at h
          · cases h
          · next hshort =>
              by_cases hname : name = "."
              · subst hname
                exact ih h
              · rw [List.filter_cons_of_pos (by simpa using hname), follow, hspot]
                dsimp only
                rw [if_neg hshort]
                exact ih h

theorem steps_ofText (s : String) : (Path.ofText s).steps = (rawSteps s).filter (· != ".") := by
  unfold rawSteps Path.steps
  by_cases hroot : Path.rootOf s.toList = ""
  · simp [Path.ofText, hroot]
  · simp [Path.ofText, hroot]

theorem locate_ofText {place : Place} (hs : s ≠ "") (h : t.locateToWrite s = .ok place) :
    t.locate (.ofText s) = .ok place := by
  obtain ⟨hcheck, -, hsteps, -⟩ := locateToWrite_eq_ok h
  refine bind_eq_ok.mpr ⟨(), checkText_of_sublist (Path.text_ofText_sublist hs) hcheck, ?_⟩
  rw [steps_ofText]
  exact follow_filter hsteps

/-- What was written under a name is read under that name. -/
theorem read_of_write (hs : s ≠ "") (h : t.write s content = .ok t') :
    t'.read (.ofText s) = .ok content := by
  obtain ⟨place, hplace, hspot⟩ := locate_of_write h
  unfold read
  rw [locate_ofText hs hplace]
  dsimp only
  rw [hspot]

end Files.Tree

end UrlSigning
