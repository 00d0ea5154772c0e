import Mathlib.Data.List.Forall2
import UrlSigning.Proofs.Files.Written
import UrlSigning.Proofs.Provider.Document

/-!
# Reports that are read again

The file of a report is read, by the reader of configuration files, as the report: whatever texts the
results hold, their characters are escaped so that they come back. The report has one entry for each
result, in the order of the run, and the entry tells what the result is.
-/

namespace UrlSigning

open Json (IsLegible)

namespace Run

/-- A result with a text for the provider's name, whose request has no header twice. -/
structure Result.IsWritable (r : Result) : Prop where
  name : ∃ s, r.providerName = .text s
  headers : ∀ m, r.request = some m → (Entries.keys m.headers).Nodup

/-- Results of distinct providers, so few that their number can be read. -/
structure AreWritable (results : Results) : Prop where
  keys : (Entries.keys results).Nodup
  writable : ∀ r ∈ results, r.2.IsWritable
  count : (Nat.toDigits 10 results.length).length ≤ Text.maxDigits

end Run

namespace Report

open Run

variable {depth : Nat}

theorem isLegible_bool (b : Bool) : IsLegible depth (.bool b) := by
  cases b
  · exact .word (show ("false", _) ∈ Json.names by simp [Json.names])
  · exact .word (show ("true", _) ∈ Json.names by simp [Json.names])

/-! ## Results -/

section

variable {m : Presigned} {r : Result}

theorem isLegible_expiry (expiresAt : Option DateTime) :
    IsLegible depth ((expiresAt.map timeField).getD .null) := by
  cases expiresAt with
  | none => exact .word (show ("null", _) ∈ Json.names by simp [Json.names])
  | some d => exact .text _

theorem isLegible_headers {headers : Entries String String} (h : (Entries.keys headers).Nodup) :
    IsLegible (depth + 1) (.object (headers.map fun h => (h.1, .text h.2))) := by
  refine .object ?_ fun e he => ?_
  · simpa [Entries.keys, Function.comp_def] using h
  · obtain ⟨header, -, rfl⟩ := List.mem_map.mp he
    exact .text header.2

theorem isLegible_requestFields (h : (Entries.keys m.headers).Nodup) :
    IsLegible (depth + 2) (requestFields m) := by
  refine .object ?_ ?_
  · show ["method", "uri", "headers", "expires_at"].Nodup
    decide
  · simp only [List.forall_mem_cons]
    exact ⟨.text m.method, .text m.url, isLegible_headers h, isLegible_expiry m.expiresAt,
      List.forall_mem_nil _⟩

/-- The fields of a result that are there if there is a request or a message. -/
def extraFields (r : Result) : Entries String Json :=
  (r.request.map fun m => ("request", requestFields m)).toList ++
    ((r.message.filter (!·.isEmpty)).map fun s => ("error", .text s)).toList

theorem resultFields_eq (r : Result) :
    resultFields r = .object ([("name", r.providerName), ("key", .text r.objectKey),
      ("status", .text r.status.name)] ++ extraFields r) := by
  obtain ⟨key, name, object, status, request, message⟩ := r
  unfold resultFields extraFields
  dsimp only
  rcases message with _ | s
  · cases request <;> rfl
  · by_cases hs : s = "" <;> cases request <;> simp [Option.filter, hs]

theorem isLegible_resultFields (h : r.IsWritable) : IsLegible (depth + 3) (resultFields r) := by
  obtain ⟨⟨name, hname⟩, hheaders⟩ := h
  rw [resultFields_eq]
  refine .object ?_ ?_
  · unfold extraFields
    cases r.request <;> cases r.message.filter (!·.isEmpty) <;> simp [Entries.keys]
  · rw [List.forall_mem_append]
    constructor
    · simp only [List.forall_mem_cons]
      exact ⟨hname ▸ .text name, .text r.objectKey, .text r.status.name, List.forall_mem_nil _⟩
    · intro e he
      rcases List.mem_append.mp he with he | he
      · obtain ⟨m, hm, rfl⟩ := Option.map_eq_some_iff.mp (Option.mem_toList.mp he)
        exact isLegible_requestFields (hheaders m hm)
      · obtain ⟨s, -, rfl⟩ := Option.map_eq_some_iff.mp (Option.mem_toList.mp he)
        exact .text s

/-- An entry of a report is that of a result: it has its key, the texts of the result, the request
if there is one, and the message if there is one that is not empty. -/
structure Tells (entry : String × Json) (r : String × Result) : Prop where
  key : entry.1 = r.1
  name : entry.2.field? "name" = some r.2.providerName
  object : entry.2.field? "key" = some (.text r.2.objectKey)
  status : entry.2.field? "status" = some (.text r.2.status.name)
  request : entry.2.field? "request" = r.2.request.map requestFields
  message : entry.2.field? "error" = (r.2.message.filter (!·.isEmpty)).map .text

theorem tells_resultFields (r : String × Result) : Tells (r.1, resultFields r.2) r := by
  have hrequest : (extraFields r.2).get? "request" = r.2.request.map requestFields := by
    unfold extraFields
    cases r.2.request <;> cases r.2.message.filter (!·.isEmpty) <;> simp [Entries.get?]
  have hmessage : (extraFields r.2).get? "error" =
      (r.2.message.filter (!·.isEmpty)).map .text := by
    unfold extraFields
    cases r.2.request <;> cases r.2.message.filter (!·.isEmpty) <;> simp [Entries.get?]
  refine ⟨rfl, ?_, ?_, ?_, ?_, ?_⟩
  all_goals simp [resultFields_eq, Json.field?, Entries.get?, hrequest, hmessage]

end

/-! ## The document -/

section

variable {now : DateTime} {results : Results}

theorem isLegible_summaryFields
    (h : (Nat.toDigits 10 results.length).length ≤ Text.maxDigits) :
    IsLegible (depth + 1) (summaryFields results) := by
  have hgood := okCount_le results
  have hbad : ((results.length : Int) - okCount results) =
      (results.length - okCount results : Nat) := (Int.ofNat_sub hgood).symm
  refine .object ?_ ?_
  · show ["total_providers", "ok", "errors", "all_ok"].Nodup
    decide
  · simp only [List.forall_mem_cons, hbad]
    have hcount {n : Nat} (hn : n ≤ results.length) : IsLegible depth (.int n) :=
      .int (Nat.le_trans (Text.length_toDigits_mono hn) h)
    exact ⟨hcount (Nat.le_refl _), hcount hgood, hcount (Nat.sub_le _ _), isLegible_bool _,
      List.forall_mem_nil _⟩

theorem isLegible_document (h : AreWritable results) :
    IsLegible (depth + 5) (document now results) := by
  refine .object ?_ ?_
  · show ["timestamp", "providers", "summary"].Nodup
    decide
  · simp only [List.forall_mem_cons]
    refine ⟨.text _, ?_, isLegible_summaryFields h.count, List.forall_mem_nil _⟩
    refine .object ?_ fun e he => ?_
    · simpa [Entries.keys, Function.comp_def] using h.keys
    · obtain ⟨r, hr, rfl⟩ := List.mem_map.mp he
      exact isLegible_resultFields (h.writable r hr)

theorem providers_document (now : DateTime) (results : Results) :
    ∃ entries, (document now results).field? "providers" = some (.object entries) ∧
      List.Forall₂ Tells entries results := by
  refine ⟨results.map fun r => (r.1, resultFields r.2), rfl, ?_⟩
  rw [List.forall₂_map_left_iff]
  exact List.forall₂_same.mpr fun r _ => tells_resultFields r

/-- The file in which a report was written is there under its name, and the reader of configuration
files reads it as the report. The report tells each of the results, in their order. -/
theorem report_read_again {path : String} {t t' : Files.Tree} (hresults : AreWritable results)
    (hpath : path ≠ "") (h : writeDocument now results path t = .ok t') :
    (∃ content, t'.read (.ofText path) = .ok content ∧
      content = Text.Utf8.ofString (documentText now results) ∧
      Provider.readDocument content = .ok (document now results)) ∧
    ∃ entries, (document now results).field? "providers" = some (.object entries) ∧
      List.Forall₂ Tells entries results := by
  refine ⟨⟨_, ?_, rfl, ?_⟩, providers_document now results⟩
  · have hgiven : path.isEmpty = false := by simpa using hpath
    unfold writeDocument at h
    rw [hgiven] at h
    obtain ⟨made, -, h⟩ := bind_eq_ok.mp h
    exact Files.Tree.read_of_write hpath h
  · have hlegible : IsLegible Json.maxDepth (document now results) := isLegible_document hresults
    exact (Provider.readDocument_written hlegible).2

/-- A request that was presigned, and a provider for which there is none. -/
def Sample.outcomes : Results :=
  [("main", ⟨"main", .text "\"Müller\"", "a\\b.txt", .ok,
      some ⟨"GET", "https://s3.example.com/bucket/a%5Cb.txt", [("x-amz-meta-tag", "😀")], none⟩,
      none⟩),
    ("spare", ⟨"spare", .text "", "a\\b.txt", .error, none, some "no\nkey"⟩)]

theorem areWritable_outcomes : AreWritable Sample.outcomes where
  keys := by decide
  writable := by
    simp only [Sample.outcomes, List.forall_mem_cons]
    refine ⟨⟨⟨_, rfl⟩, ?_⟩, ⟨⟨_, rfl⟩, ?_⟩, List.forall_mem_nil _⟩
    · rintro m ⟨⟩
      decide
    · rintro m ⟨⟩
  count := by decide

theorem report_read_again_outcomes :
    AreWritable Sample.outcomes ∧ "out.json" ≠ "" ∧
    ∃ t', writeDocument ⟨0, none, by decide⟩ Sample.outcomes "out.json" {} = .ok t' ∧
      ∃ content, t'.read (.ofText "out.json") = .ok content ∧
        Provider.readDocument content = .ok (document ⟨0, none, by decide⟩ Sample.outcomes) := by
  have hmade : Files.Tree.makeDirectories {} (Files.Path.ofText "out.json").parent = .ok {} := by
    rw [Files.Tree.makeDirectories]
    rfl
  obtain ⟨t', h⟩ : ∃ t', writeDocument ⟨0, none, by decide⟩ Sample.outcomes "out.json" {} = .ok t' :=
    ⟨_, bind_eq_ok.mpr ⟨_, hmade, rfl⟩⟩
  obtain ⟨⟨content, hcontent, -, hread⟩, -⟩ :=
    report_read_again areWritable_outcomes (by decide) h
  exact ⟨areWritable_outcomes, by decide, t', h, content, hcontent, hread⟩

end

end Report

end UrlSigning
