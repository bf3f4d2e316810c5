-- The input buffer of a session: text from one or more lines that is not yet a complete
-- statement. Statements leave it at the front.
import StatementShell.Segment
import StatementShell.Text.Quoted

namespace StatementShell

/-- Text that waits for the rest of its statement. -/
structure InputBuffer where
  text : Text
  deriving DecidableEq, Repr

namespace InputBuffer

/-- A buffer without text. -/
def empty : InputBuffer := ⟨[]⟩

/-- More text at the back. -/
def append (b : InputBuffer) (t : Text) : InputBuffer := ⟨b.text ++ t⟩

/-- Whether there is no text. -/
def isEmpty (b : InputBuffer) : Bool := b.text.isEmpty

/-- A place in a text of the given length; a negative place counts from the back. -/
def place (length : Nat) (n : Int) : Nat :=
  if n < 0 then (length + n).toNat else min n.toNat length

/-- The text before a place, and the buffer without it. -/
def consume (b : InputBuffer) (n : Int) : Text × InputBuffer :=
  let k := place b.text.length n
  (b.text.take k, ⟨b.text.drop k⟩)

/-- The buffer without blanks at its front. -/
def trimFront (b : InputBuffer) : InputBuffer := ⟨Text.trimFront b.text⟩

/-- The first complete statement, and the buffer without it. -/
def extract? (b : InputBuffer) : Option (Text × InputBuffer) :=
  (Segment.extract? b.text).map (fun (s, r) => (s, ⟨r⟩))

/-- The buffer as it is shown to a reader of logs. -/
def describe (b : InputBuffer) : Text := "<InputBuffer text=" ++ Text.quoted b.text ++ ">"

/-- A statement leaves the buffer as it leaves its text. -/
theorem extract?_text {b r : InputBuffer} {s : Text} (h : b.extract? = some (s, r)) :
    Segment.extract? b.text = some (s, r.text) := by
  obtain ⟨⟨s', t⟩, ht, he⟩ := Option.map_eq_some_iff.1 h
  obtain ⟨rfl, rfl⟩ := Prod.mk.inj he
  exact ht

/-- Without a complete statement the buffer is left alone; otherwise it gets shorter. -/
theorem length_lt_of_extract? {b r : InputBuffer} {s : Text} (h : b.extract? = some (s, r)) :
    r.text.length < b.text.length := Segment.length_lt_of_extract? (extract?_text h)

end InputBuffer

end StatementShell
