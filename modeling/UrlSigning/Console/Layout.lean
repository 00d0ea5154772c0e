import UrlSigning.Console.Markup
import UrlSigning.Console.Width
import UrlSigning.Text.Cut

/-!
# Layout

How texts are laid out on the console: lines of text, rules with a title, and tables with a frame of
ASCII characters.
-/

namespace UrlSigning.Console

/-- The columns of a line of the console. -/
def lineWidth : Nat := 198

/-- The columns from one tab stop to the next. -/
def tabWidth : Nat := 8

/-- A line with spaces up to the next tab stop for every tab, from a column on. -/
def expandTabs (column : Nat) : List Char → List Char
  | [] => []
  | '\t' :: rest =>
    let spaces := tabWidth - column % tabWidth
    List.replicate spaces ' ' ++ expandTabs (column + spaces) rest
  | c :: rest => c :: expandTabs (column + charWidth c) rest

/-- The lines of a text. -/
def linesOf (cs : List Char) : List (List Char) :=
  (Text.cutAll '\n' cs).map (expandTabs 0)

/-- A text as it is printed, with a line end after each of its lines. -/
def printed (cs : List Char) : List Char :=
  (linesOf cs).flatMap (· ++ ['\n'])

/-! ### Rules -/

/-- A text that is cut to a width, with an ellipsis in the place of what is cut off. -/
def truncate (columns : Nat) (cs : List Char) : List Char :=
  if columns < width cs then
    let kept := takeWidth (columns - 1) cs
    kept ++ List.replicate (columns - 1 - width kept) ' ' ++ ['…']
  else cs

/-- A line of dashes with a title in the middle. -/
def rule (title : List Char) : List Char :=
  let oneLine := title.map fun c => if c == '\n' then ' ' else c
  let title := truncate (lineWidth - 4) (expandTabs 0 oneLine)
  let side := (lineWidth - width title) / 2
  List.replicate (side - 1) '-' ++ [' '] ++ title ++ [' '] ++
    List.replicate (lineWidth - width title - side - 1) '-'

/-! ### Tables -/

/-- Where the text of a column stands. -/
inductive Placement where
  | left
  | centre
deriving DecidableEq, Repr

/-- A column of a table: its cells from top to bottom, the heading first. -/
structure Column where
  alignment : Placement
  cells : List (List Char)

/-- The columns of the widest line of a cell. A tab takes up none before it is laid out. -/
def measure (cell : List Char) : Nat :=
  ((Text.cutAll '\n' cell).map width).foldl max 0

/-- The columns of the widest cell. -/
def Column.width (c : Column) : Nat :=
  (c.cells.map measure).foldl max 0

/-- A line without blanks at its end as long as it has more characters than columns. -/
def dropSpare (columns : Nat) (cs : List Char) : List Char :=
  let blanks := (cs.reverse.takeWhile Text.isBlank).length
  cs.take (cs.length - min blanks (cs.length - columns))

/-- A line that fills a width. -/
def fill (alignment : Placement) (columns : Nat) (cs : List Char) : List Char :=
  let cs := truncate columns (dropSpare columns cs)
  let spare := columns - width cs
  match alignment with
  | .left => cs ++ List.replicate spare ' '
  | .centre => List.replicate (spare / 2) ' ' ++ cs ++ List.replicate (spare - spare / 2) ' '

/-- The line of a number in a cell; a blank one below the last. -/
def Column.line (c : Column) (row n : Nat) : List Char :=
  fill c.alignment c.width ((linesOf (c.cells.getD row [])).getD n [])

/-- The lines that a row takes up. -/
def rowHeight (columns : List Column) (row : Nat) : Nat :=
  (columns.map fun c => (linesOf (c.cells.getD row [])).length).foldl max 1

/-- The lines of a row between its frame. -/
def rowLines (columns : List Column) (row : Nat) : List (List Char) :=
  (List.range (rowHeight columns row)).map fun n =>
    ['|', ' '] ++ List.intercalate [' ', '|', ' '] (columns.map (·.line row n)) ++ [' ', '|']

/-- A line of dashes between two characters, with a third one between the columns. -/
def frameLine (edge between : Char) (columns : List Column) : List Char :=
  [edge] ++ List.intercalate [between] (columns.map fun c => List.replicate (c.width + 2) '-') ++
    [edge]

/-- A table of so many rows below the headings. -/
def table (columns : List Column) (rows : Nat) : List (List Char) :=
  let border := frameLine '+' '-' columns
  [border] ++ rowLines columns 0 ++ [frameLine '|' '+' columns] ++
    (List.range rows).flatMap (fun n => rowLines columns (n + 1)) ++ [border]

end UrlSigning.Console
