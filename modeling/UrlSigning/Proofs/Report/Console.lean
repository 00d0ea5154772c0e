import UrlSigning.Proofs.Checked
import UrlSigning.Report.Console

/-!
# When results can be shown

The table of results is shown if every text in it is, and then the end of a run is printed without a
fault.
-/

namespace UrlSigning.Report.Console

open Run

/-- The text can be shown. -/
def Shows (s : String) : Prop := ∃ cs, render s = .ok cs

theorem shows_of_isOk {s : String} (h : (render s).isOk = true) : Shows s := by
  unfold Shows
  rcases hs : render s with e | cs
  · rw [hs] at h
    cases h
  · exact ⟨cs, rfl⟩

theorem exists_column (alignment : UrlSigning.Console.Placement) {heading : String}
    {cells : List String} (hheading : Shows heading) (hcells : ∀ cell ∈ cells, Shows cell) :
    ∃ c, column alignment heading cells = .ok c := by
  obtain ⟨shown, hshown⟩ := exists_mapM_eq_ok (List.forall_mem_cons.mpr ⟨hheading, hcells⟩)
  exact ⟨_, bind_eq_ok.mpr ⟨shown, hshown, rfl⟩⟩

theorem shows_statusCell (r : Result) : Shows (statusCell r) := by
  unfold statusCell
  split <;> exact shows_of_isOk (by decide +kernel)

/-- A table is shown if the names, the keys and the times in it are. -/
theorem exists_resultTable {results : List Result}
    (hnames : ∀ r ∈ results, ∃ name, nameCell r.providerName = .ok name ∧ Shows name)
    (hkeys : ∀ r ∈ results, Shows r.objectKey) (htimes : ∀ r ∈ results, Shows (expiryCell r)) :
    ∃ cs, resultTable results = .ok cs := by
  obtain ⟨names, hmapped⟩ := exists_mapM_eq_ok fun r hr => (hnames r hr).imp fun _ h => h.1
  have hshown : ∀ name ∈ names, Shows name := by
    intro name hname
    obtain ⟨r, hr, hcell⟩ := exists_of_mem_mapM hmapped hname
    obtain ⟨name', hcell', hname'⟩ := hnames r hr
    cases hcell.symm.trans hcell'
    exact hname'
  obtain ⟨first, hfirst⟩ :=
    exists_column .left (shows_of_isOk (s := "Provider") (by decide +kernel)) hshown
  obtain ⟨second, hsecond⟩ := exists_column .left (shows_of_isOk (s := "Key") (by decide +kernel))
    (List.forall_mem_map.mpr hkeys)
  obtain ⟨third, hthird⟩ := exists_column .left (shows_of_isOk (s := "Expires") (by decide +kernel))
    (List.forall_mem_map.mpr htimes)
  have hstatus : ∀ cell ∈ results.map statusCell, Shows cell :=
    List.forall_mem_map.mpr fun r _ => shows_statusCell r
  obtain ⟨fourth, hfourth⟩ :=
    exists_column .centre (shows_of_isOk (s := "Status") (by decide +kernel)) hstatus
  exact ⟨_, bind_eq_ok.mpr ⟨names, hmapped, bind_eq_ok.mpr ⟨first, hfirst, bind_eq_ok.mpr
    ⟨second, hsecond, bind_eq_ok.mpr ⟨third, hthird, bind_eq_ok.mpr ⟨fourth, hfourth, rfl⟩⟩⟩⟩⟩⟩

theorem fault_print_finished {quiet : Bool} {results : Results} {cs : List Char}
    (hne : results ≠ []) (h : resultTable (results.map (·.2)) = .ok cs) :
    (print quiet (.finished results)).fault = none := by
  have hfull : results.isEmpty = false := by simpa using hne
  rw [print, finished, hfull, h]
  rfl

end UrlSigning.Report.Console
