-- Results of statements, and how they are shown: a notice, a warning, a table and the time
-- that the statement took, each on lines of its own.
import StatementShell.Table

namespace StatementShell

/-- The result of a statement. -/
structure Result where
  /-- Whether the session is to end. -/
  terminate : Bool := false
  success : Bool := true
  notice : Option Text := none
  warning : Option Text := none
  /-- The names of the columns, if the result has a table. -/
  fields : Option (List Value) := none
  rows : Option (List (List Value)) := none
  /-- The seconds that the statement took. -/
  elapsed : Value := .integer 0
  deriving DecidableEq, Repr

namespace Result

/-- The result with one more row. -/
def addRow (r : Result) (row : List Value) : Result :=
  { r with rows := some (r.rows.getD [] ++ [row]) }

/-- A text after a label, if there is one that is not empty. -/
def labelled (label : Text) (t : Option Text) : List Text :=
  match t with
  | some (c :: r) => [label ++ c :: r]
  | _ => []

/-- The table of a result, if it has columns. -/
def tableLines (r : Result) : Except Failure (List Text) :=
  match r.fields with
  | some (f :: fs) =>
    match (Table.mk (f :: fs) []).addRows (r.rows.getD []) with
    | .error e => .error e
    | .ok t => t.lines
  | _ => .ok []

/-- How many places the elapsed time is shown with. -/
def timePlaces : Nat := 3

/-- A time in seconds. -/
def timeText (v : Value) : Except Failure Text :=
  match v with
  | .integer i => whole i
  | .boolean b => whole (if b then 1 else 0)
  | .real x => .ok (x.fixed timePlaces)
  | v => .error (.timeNotNumber v)
where
  /-- A whole number of seconds. -/
  whole (i : Int) : Except Failure Text :=
    match Binary64.ofInt? i with
    | some x => .ok (x.fixed timePlaces)
    | none => .error .numberTooLarge

/-- The result as it is shown. -/
def text (r : Result) : Except Failure Text := do
  let table ← r.tableLines
  let time ← timeText r.elapsed
  let all := labelled "NOTICE: " r.notice ++ labelled "WARNING: " r.warning ++ table ++
    [("Elapsed Time: " ++ time ++ "s" : Text)]
  pure (Text.joined ['\n'] all)

end Result

end StatementShell
