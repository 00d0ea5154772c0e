import UrlSigning.Proofs.Entries
import UrlSigning.Proofs.Verification.Headers

/-!
# Lines of headers that are handed over as a dictionary

A signed line holds all values of a name, also those of other spellings of it. A dictionary has one
value for each spelling. So whoever is sent a dictionary of the headers writes the line that was
signed just when no spelling of the name came twice: a value that is lost makes the line shorter,
whatever it is.
-/

namespace UrlSigning.Verification

open Http Signing Text

section

variable (text : String → String) {pairs : Entries String String}

/-- The values of pairs as a line holds them. -/
def valuesInLine (pairs : Entries String String) : String :=
  ",".intercalate (pairs.map fun f => text f.2)

/-- A comma comes between the values, one time less than there are values. -/
theorem length_valuesInLine (hne : pairs ≠ []) :
    (valuesInLine text pairs).length + 1 = Entries.weight (fun v => (text v).length) pairs := by
  have hcomma : (",".length) = 1 := by decide
  induction pairs with
  | nil => exact absurd rfl hne
  | cons f rest ih =>
      rcases rest with _ | ⟨next, rest⟩
      · simp [valuesInLine, Entries.weight]
      · have hrest := ih (List.cons_ne_nil _ _)
        rw [Entries.weight, ← hrest]
        simp only [valuesInLine, List.map_cons]
        rw [String.intercalate_cons_cons, String.length_append, String.length_append, hcomma]
        omega

theorem ofPairs_ne_nil (hne : pairs ≠ []) : Entries.ofPairs pairs ≠ [] := by
  rcases List.eq_nil_or_concat pairs with rfl | ⟨before, last, rfl⟩
  · exact absurd rfl hne
  · intro hnil
    -- the last pair is found in the dictionary
    have hlast : Entries.get? last.1 (Entries.ofPairs (before ++ (last.1, last.2) :: [])) =
      some last.2 := Entries.get?_ofPairs_of_last List.not_mem_nil
    rw [List.concat_eq_append] at hnil
    rw [hnil] at hlast
    cases hlast

/-- A dictionary of pairs has the values of the pairs in its line just when their keys are
distinct. -/
theorem valuesInLine_ofPairs_iff :
    valuesInLine text (Entries.ofPairs pairs) = valuesInLine text pairs ↔
      (Entries.keys pairs).Nodup := by
  constructor
  · intro h
    by_cases hne : pairs = []
    · subst hne
      exact List.nodup_nil
    · have hsame := congrArg (String.length · + 1) h
      rw [length_valuesInLine text (ofPairs_ne_nil hne), length_valuesInLine text hne] at hsame
      exact (Entries.weight_ofPairs_eq_iff _).mp hsame
  · intro h
    rw [Entries.ofPairs_of_nodup h]

end

/-! ## The line of a header -/

section

variable {m : Presigned} {name : String}

/-- The fields of a name, in whatever spelling. -/
def fieldsOf (name : String) (fields : List (String × String)) : List (String × String) :=
  fields.filter fun f => Headers.sameName f.1 name

theorem headerLine?_of_ne_host (hhost : name ≠ "host") :
    headerLine? m name =
      some (name ++ ":" ++ valuesInLine collapseBlanks (fieldsOf name m.headers)) := by
  have hcond (values : List String) : (values.isEmpty && name == "host") = false := by
    simp [hhost]
  unfold headerLine? headerValues? valuesInLine fieldsOf
  dsimp only
  rw [hcond]
  simp [Function.comp_def]

theorem fieldsOf_ofPairs (name : String) (sent : List (String × String)) :
    fieldsOf name (Entries.ofPairs sent) = Entries.ofPairs (fieldsOf name sent) :=
  Entries.filter_ofPairs (fun other => Headers.sameName other name) sent

/-- Whoever is sent the fields of a name as a dictionary writes the line of the fields just when no
spelling of the name comes twice. -/
theorem headerLine?_iff_nodup {pairs : List (String × String)} (hhost : name ≠ "host")
    (hpairs : fieldsOf name m.headers = Entries.ofPairs pairs) :
    headerLine? m name = some (name ++ ":" ++ valuesInLine collapseBlanks pairs) ↔
      (pairs.map (·.1)).Nodup := by
  rw [headerLine?_of_ne_host hhost, hpairs, Option.some_inj, String.append_right_inj]
  exact valuesInLine_ofPairs_iff collapseBlanks

end

end UrlSigning.Verification
