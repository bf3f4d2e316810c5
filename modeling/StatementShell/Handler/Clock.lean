-- A clock that goes on by one tick at every reading.
import StatementShell.Value

namespace StatementShell

/-- The time between two readings. -/
inductive Tick
  | whole (i : Int)
  | fraction (x : Binary64)
  deriving DecidableEq, Repr

/-- A clock, with the count of its readings so far. -/
structure Clock where
  tick : Tick
  readings : Nat
  deriving DecidableEq, Repr

namespace Clock

/-- A clock that stands still. -/
def stopped : Clock := ⟨.whole 0, 0⟩

/-- The time of some reading. -/
def time (t : Tick) (n : Nat) : Tick :=
  match t with
  | .whole i => .whole (n * i)
  | .fraction x => .fraction (Binary64.mul ((Binary64.ofInt? n).getD .nan) x)

/-- Reads the clock. -/
def read (c : Clock) : Tick × Clock :=
  (time c.tick c.readings, { c with readings := c.readings + 1 })

/-- The time from one reading to another. -/
def between (start finish : Tick) : Value :=
  match start, finish with
  | .whole i, .whole j => .integer (j - i)
  | .fraction x, .fraction y => .real (Binary64.sub y x)
  | _, _ => .null

end Clock

end StatementShell
