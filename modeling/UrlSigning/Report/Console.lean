import UrlSigning.Console.Layout
import UrlSigning.Run.Progress

/-!
# The report on the console

While a run goes on, the console shows a rule at the start of each provider's turn and the request
or the message at its end; when all turns are over it shows a table of the results. A quiet report
is the table alone. Names, keys, requests and messages are texts with markup.
-/

namespace UrlSigning.Report.Console

open UrlSigning.Console Run

inductive Fault where
  | markup (fault : Markup.Fault)
  /-- The cell of a table is no text but a value of some kind. -/
  | notText (kindName : String)
deriving DecidableEq, Repr

def Fault.message : Fault → String
  | .markup fault => fault.message
  | .notText kindName =>
    s!"unable to render {kindName}; a string or other renderable object is required"

/-- What was printed, up to the first text that could not be. -/
structure Output where
  text : List Char
  fault : Option Fault

/-- The characters that a text with markup shows. -/
def render (s : String) : Except Fault (List Char) :=
  (Markup.shown s.toList).mapError .markup

/-- Prints one text after another. -/
def printAll : List (Except Fault (List Char)) → Output
  | [] => ⟨[], none⟩
  | .error fault :: _ => ⟨[], some fault⟩
  | .ok cs :: rest =>
    let after := printAll rest
    ⟨cs ++ after.text, after.fault⟩

/-- A text with markup as it is printed. -/
def line (s : String) : Except Fault (List Char) :=
  (render s).map printed

/-- An empty line. -/
def blank : Except Fault (List Char) :=
  .ok ['\n']

/-! ### The turns of providers -/

/-- The start of a provider's turn. -/
def started (providerName : Json) (objectKey : String) : List (Except Fault (List Char)) :=
  let title := s!"[bold cyan]Presigning: {providerName.plain} / {objectKey}[/bold cyan]"
  [blank, (render title).map fun cs => rule cs ++ ['\n']]

/-- The request of a good result. -/
def requestLines (r : Presigned) : List (Except Fault (List Char)) :=
  [line s!"  [green][OK][/green] {r.method}", line r.url] ++
    (r.headers.map fun h => line s!"     [dim]{h.1}: {h.2}[/dim]") ++
    (r.expiresAt.toList.map fun d => line s!"     [dim]expires {Time.Iso.text d}[/dim]")

/-- The message of an error result, or of a good one without a request. -/
def messageLines (r : Result) : List (Except Fault (List Char)) :=
  let message := r.message.getD ""
  [line s!"  [red][ERROR][/red] {r.providerName.plain}"] ++
    if message.isEmpty then [] else [line s!"     [dim red]{message}[/dim red]"]

/-- The end of a provider's turn. -/
def completed (r : Result) : List (Except Fault (List Char)) :=
  match r.status, r.request with
  | .ok, some request => requestLines request
  | _, _ => messageLines r

/-! ### The table -/

/-- The text of a name in a cell; a name that is not there is an empty cell. -/
def nameCell (name : Json) : Except Fault String :=
  match name with
  | .null => .ok ""
  | .text s => .ok s
  | v => .error (.notText v.kindName)

/-- The cell that says when a request expires. -/
def expiryCell (r : Result) : String :=
  ((r.request.bind (·.expiresAt)).map Time.Iso.text).getD "-"

def statusCell (r : Result) : String :=
  if r.isOk then "[green]OK[/green]" else "[red]ERROR[/red]"

/-- A column of cells with markup. -/
def column (alignment : Placement) (heading : String) (cells : List String) :
    Except Fault Column := do
  return ⟨alignment, ← (heading :: cells).mapM render⟩

/-- The table of results as it is printed. All names are looked at first, and then the texts with
markup from column to column. -/
def resultTable (results : List Result) : Except Fault (List Char) := do
  let names ← results.mapM fun r => nameCell r.providerName
  let columns : List Column := [
    ← column .left "Provider" names,
    ← column .left "Key" (results.map (·.objectKey)),
    ← column .left "Expires" (results.map expiryCell),
    ← column .centre "Status" (results.map statusCell)]
  return (table columns results.length).flatMap (· ++ ['\n'])

/-- The end of a run. -/
def finished (results : Results) : List (Except Fault (List Char)) :=
  if results.isEmpty then [line "[yellow]No results to display.[/yellow]"]
  else [blank, resultTable (results.map (·.2)), blank]

/-- What a step of a run prints. -/
def print (quiet : Bool) : Step → Output
  | .started providerName objectKey =>
    if quiet then ⟨[], none⟩ else printAll (started providerName objectKey)
  | .completed r => if quiet then ⟨[], none⟩ else printAll (completed r)
  | .finished results => printAll (finished results)
  | .logged _ => ⟨[], none⟩

end UrlSigning.Report.Console
