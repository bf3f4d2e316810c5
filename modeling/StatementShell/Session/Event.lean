-- What can be seen of a session from outside, in the order in which it happens.
import StatementShell.Failure

namespace StatementShell

/-- What a session is doing. -/
inductive Phase
  | awaitingInput
  | readingContinuation
  | exiting
  deriving DecidableEq, Repr

/-- The name of a phase. -/
def Phase.name : Phase → Text
  | .awaitingInput => "AWAITING_INPUT"
  | .readingContinuation => "READING_CONTINUATION"
  | .exiting => "EXITING"

/-- How important a line of the log is. -/
inductive LogLevel
  | debug
  | info
  | warning
  | error
  | critical
  deriving DecidableEq, Repr

namespace LogLevel

/-- All levels, from the least important one on. -/
def all : List LogLevel := [debug, info, warning, error, critical]

/-- The place of a level among all levels. -/
def rank : LogLevel → Nat
  | .debug => 0
  | .info => 1
  | .warning => 2
  | .error => 3
  | .critical => 4

/-- The name of a level. -/
def name : LogLevel → Text
  | .debug => "DEBUG"
  | .info => "INFO"
  | .warning => "WARNING"
  | .error => "ERROR"
  | .critical => "CRITICAL"

/-- The level of a name. -/
def ofName? (t : Text) : Option LogLevel := all.find? (fun l => l.name == t)

/-- The name of a level leads back to it. -/
theorem ofName?_name (l : LogLevel) : ofName? l.name = some l := by
  cases l <;> decide

end LogLevel

/-- Something that a session does. -/
inductive Event
  /-- The handler is told that the session begins. -/
  | startup
  /-- The handler is told that the session is over. -/
  | shutdown
  /-- A statement is given to the handler. -/
  | handle (statement : Text)
  /-- A statement is given to an executor. -/
  | execute (statement : Text)
  /-- A line is about to be read. -/
  | read (buffer : Text) (phase : Phase)
  /-- Some text is written. -/
  | write (text : Text)
  /-- A line of the log, with what went wrong. -/
  | log (level : LogLevel) (message : Text) (cause : Option Raised)
  deriving DecidableEq, Repr

/-- The text that a list of events writes. -/
def Event.written (es : List Event) : Text :=
  es.flatMap (fun e =>
    match e with
    | .write t => t
    | _ => [])

end StatementShell
