import UrlSigning.Files.Tree
import UrlSigning.Json.Writer
import UrlSigning.Run.Result

/-!
# The JSON report

The results of a run as one JSON document: the time of the report, the results by provider, and a
summary. The document is written to a file, and the directories that lead to it are made where they
are missing.
-/

namespace UrlSigning.Report

open Run

/-- The time in a document. -/
def timeField (d : DateTime) : Json :=
  .text (Time.Iso.text d)

/-- A presigned request in a document. -/
def requestFields (r : Presigned) : Json :=
  .object [("method", r.method), ("uri", r.url),
    ("headers", .object (r.headers.map fun h => (h.1, .text h.2))),
    ("expires_at", (r.expiresAt.map timeField).getD .null)]

/-- A result in a document. An empty message is left out, as is a request that is not there. -/
def resultFields (r : Result) : Json :=
  let request := match r.request with
    | some request => [("request", requestFields request)]
    | none => []
  let message := match r.message with
    | some m => if m.isEmpty then [] else [("error", Json.text m)]
    | none => []
  let fields : List (String × Json) :=
    [("name", r.providerName), ("key", .text r.objectKey), ("status", .text r.status.name)]
  .object (fields ++ request ++ message)

/-- How many results there are, how many of them are good, and whether these are all of them. -/
def summaryFields (results : Results) : Json :=
  let total := results.length
  let good := okCount results
  .object [("total_providers", .int total), ("ok", .int good),
    ("errors", .int (total - good)), ("all_ok", .bool (good == total && decide (0 < total)))]

/-- The report on a run. -/
def document (now : DateTime) (results : Results) : Json :=
  .object [("timestamp", timeField now),
    ("providers", .object (results.map fun r => (r.1, resultFields r.2))),
    ("summary", summaryFields results)]

/-- The text of the report as it stands in a file. -/
def documentText (now : DateTime) (results : Results) : String :=
  (document now results).page

/-- Writes the report to the file that a text names; an empty text names none. -/
def writeDocument (now : DateTime) (results : Results) (path : String) (t : Files.Tree) :
    Except Files.Fault Files.Tree := do
  if path.isEmpty then return t
  let t ← t.makeDirectories (Files.Path.ofText path).parent
  t.write path (Text.Utf8.ofString (documentText now results))

end UrlSigning.Report
