-- Tables of text. A column is as wide as its widest cell; a cell with line feeds takes
-- several lines, and the other cells of its row are blank there.
import StatementShell.Failure

namespace StatementShell

/-- A table: the names of its columns and its rows. -/
structure Table where
  header : List Value
  rows : List (List Value)
  deriving DecidableEq, Repr

namespace Table

/-- The table with one more row. A table with columns takes only rows of as many cells. -/
def addRow (t : Table) (row : List Value) : Except Failure Table :=
  if t.header ≠ [] ∧ row.length ≠ t.header.length then
    .error (.rowLength row.length t.header.length)
  else .ok { t with rows := t.rows ++ [row] }

/-- The table with more rows, up to the first one that does not fit. -/
def addRows (t : Table) : List (List Value) → Except Failure Table
  | [] => .ok t
  | row :: rows =>
    match t.addRow row with
    | .error e => .error e
    | .ok u => u.addRows rows

/-! ## Cells -/

/-- The text of a value, where one must be found. -/
def valueText (v : Value) : Except Failure Text :=
  match v.text? with
  | some t => .ok t
  | none => .error .numberTooLong

/-- The lines of a cell. -/
def cellLines (v : Value) : Except Failure (List Text) :=
  match v with
  | .null => .ok ["NULL".toList]
  | v => (valueText v).map (Text.pieces '\n')

/-- On which side a cell has its text. -/
inductive Alignment
  | left
  | right
  | centre
  deriving DecidableEq, Repr

/-- Numbers line up on the right. -/
def alignment (v : Value) : Alignment := if v.isNumber then .right else .left

/-- Blanks. -/
def blanks (n : Nat) : Text := List.replicate n ' '

/-- A text in a field of some width. Text in the middle has the odd blank on its right. -/
def padded (a : Alignment) (width : Nat) (t : Text) : Text :=
  let owed := width - t.length
  match a with
  | .left => t ++ blanks owed
  | .right => blanks owed ++ t
  | .centre => blanks (owed / 2) ++ t ++ blanks (owed - owed / 2)

/-- A row to be laid out: the lines of each cell and the side of their text. -/
abbrev Cells := List (Alignment × List Text)

/-- The cells of a row. -/
def rowCells (row : List Value) : Except Failure Cells :=
  row.mapM (fun v => (cellLines v).map (fun ls => (alignment v, ls)))

/-- The cells of the header. -/
def headerCells (header : List Value) : Except Failure Cells :=
  header.mapM (fun v => (cellLines v).map (fun ls => (.centre, ls)))

/-- The greatest of some numbers. -/
def greatest (ns : List Nat) : Nat := ns.foldl max 0

/-- How many lines a row takes. -/
def height (cells : Cells) : Nat := greatest (cells.map (fun c => c.2.length))

/-- How wide the cells of a row are. -/
def cellWidths (cells : Cells) : List Nat :=
  cells.map (fun c => greatest (c.2.map List.length))

/-- One line of a row. -/
def rowLine (widths : List Nat) (cells : Cells) (k : Nat) : Text :=
  let fields := (cells.zip widths).map
    (fun (c, w) => (" " ++ padded c.1 w (c.2.getD k []) ++ " " : Text))
  "|" ++ Text.joined ['|'] fields ++ "|"

/-- The lines of a row. -/
def rowLines (widths : List Nat) (cells : Cells) : List Text :=
  (List.range (height cells)).map (rowLine widths cells)

/-- The line between the header and the rows, and around both. -/
def border (widths : List Nat) : Text :=
  "+" ++ Text.joined ['+'] (widths.map (fun w => List.replicate (w + 2) '-')) ++ "+"

/-! ## The whole table -/

/-- The widths of the columns. A name counts with its whole text, line feeds included. -/
def columnWidths (names : List Text) (rows : List Cells) : List Nat :=
  rows.foldl (fun ws cells => List.zipWith max ws (cellWidths cells)) (names.map List.length)

/-- What stands for a table without columns or rows. -/
def emptyText : Text := "(empty)"

/-- The lines of a table that has columns and rows. -/
def gridLines (names : List Text) (header : Cells) (rows : List Cells) : List Text :=
  let widths := columnWidths names rows
  let line := border widths
  [line] ++ rowLines widths header ++ [line] ++ rows.flatMap (rowLines widths) ++ [line]

/-- The lines of a table. -/
def lines (t : Table) : Except Failure (List Text) :=
  if t.header = [] ∨ t.rows = [] then .ok [emptyText]
  else do
    let names ← t.header.mapM valueText
    let header ← headerCells t.header
    let rows ← t.rows.mapM rowCells
    pure (gridLines names header rows)

/-- The table as text. -/
def text (t : Table) : Except Failure Text := t.lines.map (Text.joined ['\n'])

end Table

end StatementShell
