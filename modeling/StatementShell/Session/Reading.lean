-- What comes of reading a line.
import StatementShell.Failure
import StatementShell.Text.Line

namespace StatementShell

/-- What one read gives: a line without its terminator, the end of the input, or
something that goes wrong. -/
inductive Reading
  | line (text : Text)
  | endOfInput
  | raises (r : Raised)
  /-- Bytes that are no text, which every further read meets as well. -/
  | broken (fault : Utf8.Fault)
  deriving DecidableEq, Repr

/-- The reading that a line gives. -/
def Reading.ofLine (line : Text) : Reading := .line (Text.stripTerminator line)

end StatementShell
