-- Where the lines of a session come from. A source is the list of what its reads will
-- give; when the list is used up, every further read finds the end of the input.
import StatementShell.Session.LineReader

namespace StatementShell

/-- A source of lines. -/
structure LineSource where
  readings : List Reading
  /-- Whether somebody sits at the other end. -/
  interactive : Bool
  deriving DecidableEq, Repr

namespace LineSource

/-- The lines of a text. -/
def ofText (t : Text) (interactive : Bool) : LineSource :=
  ⟨(Text.lines t).map .ofLine, interactive⟩

/-- Lines that are there already, one by one. -/
def ofReadings (rs : List Reading) : LineSource :=
  ⟨rs.map (fun r =>
    match r with
    | .line t => .ofLine t
    | r => r), false⟩

/-- The lines of a body. -/
def ofBody (b : Body) (interactive : Bool) : LineSource :=
  match b with
  | .text t => ofText (Text.unifyLineEnds t) interactive
  | .bytes bs => ⟨LineReader.allReadings bs, interactive⟩

/-- One read. -/
def next (s : LineSource) : Reading × LineSource :=
  match s.readings with
  | [] => (.endOfInput, s)
  | .broken e :: _ => (.broken e, s)
  | r :: rs => (r, { s with readings := rs })

end LineSource

/-- Which of the streams are terminals. -/
structure Terminals where
  stdin : Bool
  stdout : Bool
  deriving DecidableEq, Repr

/-- Whether somebody sits at both ends of the program. -/
def Terminals.hasConsole (t : Terminals) : Bool := t.stdin && t.stdout

/-- Whether a session shows prompts: as it was told to, or else if somebody sits at both
ends of the program and at the source as well. -/
def attachesConsole (setting : Option Bool) (source : LineSource) (t : Terminals) : Bool :=
  setting.getD (source.interactive && t.hasConsole)

end StatementShell
