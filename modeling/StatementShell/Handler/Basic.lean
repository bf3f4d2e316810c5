-- Handlers of statements. A session knows of its handler only that it can be told of the
-- session's beginning and end, and that it answers statements.
import StatementShell.Property.Registry
import StatementShell.Session.Event

namespace StatementShell

/-- What a handler's answer says about the end of the session. An answer that cannot be
asked lets the session go on; asking may go wrong. -/
inductive Reply
  | silent
  | answers (ends : Except Raised Bool)

/-- Whether the session is to end after an answer. -/
def Reply.ends : Reply → Except Raised Bool
  | .silent => .ok false
  | .answers e => e

/-- What some work does: the events, the state after it, and what came of it. -/
structure Step (σ α : Type) where
  events : List Event
  state : σ
  outcome : Except Raised α

/-- A handler with a state of its own. -/
structure Handler (σ : Type) where
  startup : σ → Step σ Unit
  handle : σ → Text → Step σ Reply
  shutdown : σ → Step σ Unit
  /-- The properties that the session looks at, if there are any. -/
  properties : σ → Option Property.Registry

end StatementShell
