import UrlSigning.Proofs.Checked
import UrlSigning.Proofs.Json.Characters
import UrlSigning.Proofs.Text.Utf8
import UrlSigning.Provider.Load

/-!
# Documents in files

A configuration file that can be read is loaded by reading its document. A document that was written
into a file, on one line or with one item a line, is read again from there.
-/

namespace UrlSigning

/-- A file that can be read is there. -/
theorem Files.Tree.has_of_read {t : Files.Tree} {p : Files.Path} {content : Bytes}
    (h : t.read p = .ok content) : t.has p = .ok true := by
  unfold Files.Tree.read at h
  unfold Files.Tree.has
  split at h
  · cases h
  · next place hplace =>
      rw [hplace]
      dsimp only
      split at h
      · next hspot =>
          rw [hspot]
          rfl
      · cases h
      · cases h

namespace Provider

theorem loadFile_of_read {t : Files.Tree} {path : String} {content : Bytes}
    (h : t.read (.ofText path) = .ok content) :
    loadFile t path = readDocument content >>= ofDocument := by
  unfold loadFile
  dsimp only
  rw [Files.Tree.has_of_read h, h]
  rfl

/-- The file of a text without carriage returns holds what the text is read as. -/
theorem readDocument_ofString {text : String} (h : '\r' ∉ text.toList) :
    readDocument (Text.Utf8.ofString text) = (Json.read text).mapError .document := by
  have hdecode : Text.Utf8.decode (Text.Utf8.ofString text) = .ok text.toList :=
    Text.Utf8.decode_eq_ok_iff.mpr rfl
  unfold readDocument
  rw [hdecode]
  show (Json.read (String.ofList (Text.unifyLineEnds text.toList))).mapError LoadFault.document = _
  rw [Text.unifyLineEnds_of_not_mem h, String.ofList_toList]

theorem not_mem_of_isPlain {cs : List Char} (h : ∀ c ∈ cs, Json.IsPlain c) : '\r' ∉ cs := by
  intro hmem
  exact absurd (h _ hmem) (by decide)

/-- A document that can be read again is read from a file on one line, and from one with one item
a line. -/
theorem readDocument_written {document : Json} (h : Json.IsLegible Json.maxDepth document) :
    readDocument (Text.Utf8.ofString document.line) = .ok document ∧
      readDocument (Text.Utf8.ofString document.page) = .ok document := by
  constructor
  · have hplain : '\r' ∉ document.line.toList := by
      rw [Json.line, String.toList_ofList]
      exact not_mem_of_isPlain fun c => Json.isPlain_of_mem_write Json.isPlain_compact h
    rw [readDocument_ofString hplain, Json.read_line h]
    rfl
  · have hplain : '\r' ∉ document.page.toList := by
      rw [Json.page, String.toList_ofList]
      exact not_mem_of_isPlain fun c => Json.isPlain_of_mem_write Json.isPlain_indented h
    rw [readDocument_ofString hplain, Json.read_page h]
    rfl

/-- The working directory with a configuration file of this content. -/
def Sample.configured (content : Bytes) : Files.Tree :=
  ⟨[(["config.json"], .file content)]⟩

theorem read_configured (content : Bytes) :
    (Sample.configured content).read (.ofText "config.json") = .ok content := by
  rfl

end Provider

end UrlSigning
