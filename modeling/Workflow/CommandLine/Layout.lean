import Workflow.CommandLine.Markup
import Workflow.CommandLine.Panel
import Workflow.Text.Width

/-!
# Tables and panels as lines

What the command line shows, as lines of text without frames.  The cells of a row stand
side by side; a cell that is wider than its column is broken between words, and a word
that does not fit is cut.
-/

namespace Workflow

namespace Layout

/-- The text of a cell or a title with markup, as characters. -/
def shownChars (s : String) : Outcome (List Char) := do
  .ok (CommandLine.displayed (<- Markup.plain s)).toList

/-- The lines of characters. -/
def charLines (cs : List Char) : List (List Char) :=
  Text.splitAll ['\n'] cs.length cs

/-- The lines of a text. -/
def linesOf (s : String) : List String :=
  (charLines (CommandLine.displayed s).toList).map String.ofList

/-- The lines of a text with markup. -/
def markupLines (s : String) : Outcome (List String) := do
  .ok ((charLines (<- shownChars s)).map String.ofList)

/-! ## Breaking lines -/

/-- A text cut into words, each with the blanks after it; the first also has those before it. -/
def words : Nat -> List Char -> List (List Char)
  | 0, _ => []
  | fuel + 1, cs =>
      let before := cs.takeWhile Text.isBlank
      let rest := cs.drop before.length
      let word := rest.takeWhile fun c => !Text.isBlank c
      let rest := rest.drop word.length
      let after := rest.takeWhile Text.isBlank
      if word.isEmpty then []
      else (before ++ word ++ after) :: words fuel (rest.drop after.length)

/-- A line that is not empty. -/
def begun (line : List Char) : List (List Char) :=
  if line.isEmpty then [] else [line]

/--
Put words into lines of a number of columns, of which `used` are taken by the line so far.
A word that is too long stands on lines of its own, broken when `fold` holds.
-/
def fill (fold : Bool) (room used : Nat) (line : List Char) : List (List Char) -> List (List Char)
  | [] => [line]
  | w :: rest =>
      let length := Text.columns (Text.trimEnd Text.isBlank w)
      if used + length ≤ room then fill fold room (used + Text.columns w) (line ++ w) rest
      else if length ≤ room || !fold then begun line ++ fill fold room (Text.columns w) w rest
      else
        let rows := Text.chop room w
        let last := rows.getLast?.getD []
        begun line ++ rows.dropLast ++ fill fold room (Text.columns last) last rest

/-- A line without the blanks at its end that stand after so many characters. -/
def trimBeyond (size : Nat) (line : List Char) : List Char :=
  let blanks := line.length - (Text.trimEnd Text.isBlank line).length
  line.take (line.length - min blanks (line.length - size))

/-- A line cut to a number of columns, with a mark where it is cut unless it is folded. -/
def clip (fold : Bool) (room : Nat) (line : List Char) : List Char :=
  if Text.columns line ≤ room then line
  else if fold then Text.cropTo room line
  else Text.cropTo (room - 1) line ++ ['…']

/-- A line broken into lines of a number of columns. -/
def wrap (fold : Bool) (room : Nat) (line : List Char) : List (List Char) :=
  let line := Text.fillTabs 0 [] line
  let lines := fill fold room 0 [] (words line.length line)
  lines.map fun cs => clip fold room (trimBeyond room cs)

/-! ## Tables -/

/-- A column: its heading, and how many columns of text it takes when that is fixed. -/
structure Column where
  heading : String
  room : Option Nat

/-- The number of columns of text that a cell takes where nothing breaks its lines. -/
def measure (cs : List Char) : Nat :=
  ((Text.splitLines Text.isLineEnd false cs).map Text.columns).foldl max 0

/-- A column, the number of columns of text that it takes, and its cells. -/
structure FilledColumn where
  heading : String
  room : Nat
  cells : List (List Char)

/-- The cells of a column, read when its turn comes. -/
def readColumn (rows : List (List String)) (place : Nat) : Outcome (List (List Char)) :=
  rows.mapM fun row => shownChars ((row[place]?).getD "")

/-- A column that is as wide as its widest cell. -/
def fitted (c : Column) (cells : List (List Char)) : FilledColumn :=
  ⟨c.heading, (cells.map measure).foldl max (measure c.heading.toList), cells⟩

/-- The columns that are as wide as their cells, read before all others. -/
def fittedColumns (rows : List (List String)) : List (Column × Nat) -> Outcome (List FilledColumn)
  | [] => .ok []
  | (c, place) :: rest =>
      match c.room with
      | some room => do .ok (⟨c.heading, room, []⟩ :: (<- fittedColumns rows rest))
      | none => do
          let cells <- readColumn rows place
          .ok (fitted c cells :: (<- fittedColumns rows rest))

/-- The cells of a row: those of fitted columns are known, others are read. -/
def rowCells (columns : List (FilledColumn × Nat)) (row : List String) (n : Nat) :
    Outcome (List (List Char)) :=
  columns.mapM fun (c, place) =>
    match c.cells[n]? with
    | some cell => .ok cell
    | none => shownChars ((row[place]?).getD "")

/-- The lines of a row whose cells are lines. -/
def rowLines (cells : List (List (List Char))) : List String :=
  let height := (cells.map List.length).foldl max 0
  (List.range height).map fun i =>
    " ".intercalate (cells.map fun cell => String.ofList ((cell[i]?).getD []))

/-- The lines of a cell in a column. -/
def cellLines (room : Nat) (cs : List Char) : List (List Char) :=
  (charLines cs).flatMap (wrap false room)

/-- The number of columns of text that a table takes, with its frame. -/
def tableWidth (columns : List FilledColumn) : Nat :=
  (columns.map fun c => c.room + 2).foldl (· + ·) (columns.length + 1)

/-- The lines of rows in their columns. -/
def bodyLines (columns : List FilledColumn) : List (List String × Nat) -> Outcome (List String)
  | [] => .ok []
  | (row, n) :: rest => do
      let cells <- rowCells columns.zipIdx row n
      let lines := rowLines ((columns.zip cells).map fun (c, cell) => cellLines c.room cell)
      .ok (lines ++ (<- bodyLines columns rest))

/-- A table with a title, the lines of which fit over it. -/
def table (title : String) (columns : List Column) (rows : List (List String)) :
    Outcome (List String) := do
  let filled <- fittedColumns rows columns.zipIdx
  let title <- shownChars title
  let heading := ((charLines title).flatMap (wrap true (tableWidth filled))).map String.ofList
  let body <- bodyLines filled rows.zipIdx
  .ok (heading ++ [" ".intercalate (columns.map (·.heading))] ++ body)

/-- Rows of two cells, without headings. -/
def grid (rows : List (String × String)) : Outcome (List String) := do
  let rows := rows.map fun (k, v) => [k, v]
  let filled <- fittedColumns rows [(⟨"", none⟩, 0), (⟨"", none⟩, 1)]
  bodyLines filled rows.zipIdx

/-- A panel: its title, then its lines. -/
def panel (title : String) (lines : Outcome (List String)) : Outcome (List String) := do
  let title <- shownChars title
  .ok (String.ofList (title.map fun c => if c == '\n' then ' ' else c) :: (<- lines))

end Layout

end Workflow
