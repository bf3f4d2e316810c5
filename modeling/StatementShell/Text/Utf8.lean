-- Reading bytes as UTF-8. A fault is found at the first byte that cannot go on the
-- character begun before it; a strict reader stops there, a lenient one leaves the bytes
-- of the broken character out.
import StatementShell.Text.Basic

namespace StatementShell.Utf8

/-- Why a stretch of bytes is no character. -/
inductive Reason
  | badStart
  | badContinuation
  | truncated
  deriving DecidableEq, Repr

/-- The words for a reason. -/
def Reason.message : Reason → Text
  | .badStart => "invalid start byte"
  | .badContinuation => "invalid continuation byte"
  | .truncated => "unexpected end of data"

/-- A stretch of bytes that is no character. -/
structure Fault where
  /-- How many bytes stand before it. -/
  offset : Nat
  /-- How many bytes it has. -/
  length : Nat
  /-- Its first byte. -/
  byte : UInt8
  reason : Reason
  deriving DecidableEq, Repr

/-- What a first byte asks for: the bits it gives, how many bytes follow, and the bounds of
the first of them. The bounds leave out overlong forms, surrogates and what lies beyond the
last code point. -/
def lead? (b : Nat) : Option (Nat × Nat × Nat × Nat) :=
  if b < 0x80 then some (b, 0, 0x80, 0xbf)
  else if b < 0xc2 then none
  else if b < 0xe0 then some (b - 0xc0, 1, 0x80, 0xbf)
  else if b = 0xe0 then some (0, 2, 0xa0, 0xbf)
  else if b = 0xed then some (0xd, 2, 0x80, 0x9f)
  else if b < 0xf0 then some (b - 0xe0, 2, 0x80, 0xbf)
  else if b = 0xf0 then some (0, 3, 0x90, 0xbf)
  else if b < 0xf4 then some (b - 0xf0, 3, 0x80, 0xbf)
  else if b = 0xf4 then some (4, 3, 0x80, 0x8f)
  else none

/-- The bytes after the first: the code point, or why there is none. The second part is how
many of the bytes belong to the character or to its broken beginning. -/
def follow (code : Nat) : Nat → Nat → Nat → Nat → List UInt8 → Except Reason Nat × Nat
  | 0, _, _, taken, _ => (.ok code, taken)
  | _ + 1, _, _, taken, [] => (.error .truncated, taken)
  | owed + 1, low, high, taken, b :: r =>
    if low ≤ b.toNat ∧ b.toNat ≤ high then
      follow (code * 64 + (b.toNat - 0x80)) owed 0x80 0xbf (taken + 1) r
    else (.error .badContinuation, taken)

/-- The first character of the bytes, or why they begin with none, with the count of bytes
that this takes. -/
def first (b : UInt8) (r : List UInt8) : Except Reason Nat × Nat :=
  match lead? b.toNat with
  | none => (.error .badStart, 1)
  | some (bits, owed, low, high) => follow bits owed low high 1 r

/-- The characters and the faults of some bytes, in order, from a given offset on. -/
def scan : Nat → Nat → List UInt8 → List (Except Fault Char)
  | 0, _, _ => []
  | _ + 1, _, [] => []
  | fuel + 1, offset, b :: r =>
    let (found, taken) := first b r
    let item :=
      match found with
      | .ok code => .ok (Char.ofNat code)
      | .error reason => .error { offset, length := taken, byte := b, reason }
    item :: scan fuel (offset + taken) (r.drop (taken - 1))

/-- The characters and the faults of some bytes. Each takes a byte at least, so as many
steps as there are bytes are enough. -/
def items (bs : List UInt8) : List (Except Fault Char) := scan bs.length 0 bs

/-- The text that the bytes write, or the first fault. -/
def decode (bs : List UInt8) : Except Fault Text := (items bs).mapM id

/-- The text that the bytes write, faults left out. -/
def decodeLenient (bs : List UInt8) : Text := (items bs).filterMap (·.toOption)

/-- The bytes that write a text. -/
def encode (t : Text) : List UInt8 := t.flatMap String.utf8EncodeChar

end StatementShell.Utf8
