-- What a file holds. A body that is text is kept as text; other bytes are kept as they
-- are, and a reader says whether they stop it or are passed over.
import StatementShell.Text.Line
import StatementShell.Text.Utf8

namespace StatementShell

/-- What a file holds: text, or bytes that are no text. -/
inductive Body
  | text (t : Text)
  | bytes (bs : List UInt8)
  deriving DecidableEq, Repr

namespace Body

/-- A body without anything in it. -/
def empty : Body := .text []

/-- The body that some bytes make: text wherever they can be read as text. -/
def ofBytes (bs : List UInt8) : Body :=
  match Utf8.decode bs with
  | .ok t => .text t
  | .error _ => .bytes bs

/-- The bytes of a body. -/
def toBytes : Body → List UInt8
  | .text t => Utf8.encode t
  | .bytes bs => bs

/-- The body with more text at its end. -/
def append (b : Body) (t : Text) : Body :=
  match b with
  | .text s => .text (s ++ t)
  | .bytes bs => .ofBytes (bs ++ Utf8.encode t)

/-- The text of a body, line ends unified and faults passed over. -/
def readLenient (b : Body) : Text :=
  match b with
  | .text t => Text.unifyLineEnds t
  | .bytes bs => Text.unifyLineEnds (Utf8.decodeLenient bs)

end Body

end StatementShell
