-- Reading UTF-8 that arrives in pieces. A character or a line end may be cut in two by the
-- edge of a piece; what is cut off waits for the next one.
import StatementShell.Text.Line
import StatementShell.Text.Utf8

namespace StatementShell.Utf8

/-- Whether the bytes are the beginning of a surrogate, without its third byte. They wait
for it, although no byte makes a character of them. -/
def beginsSurrogate : List UInt8 → Bool
  | [a, b] => a == 0xed && decide (0xa0 ≤ b.toNat) && decide (b.toNat ≤ 0xbf)
  | _ => false

/-- Whether a fault in some bytes is only that more bytes have to come. -/
def Fault.isPending (e : Fault) (bs : List UInt8) : Bool :=
  e.reason == .truncated || beginsSurrogate (bs.drop e.offset)

/-- What a decoder holds back between two pieces. -/
structure Decoder where
  /-- The first bytes of a character. -/
  owed : List UInt8
  /-- Whether a carriage return waits for the line feed that may follow it. -/
  afterReturn : Bool
  deriving DecidableEq, Repr

namespace Decoder

/-- A decoder that has seen nothing. -/
def start : Decoder := ⟨[], false⟩

/-- Some characters behind the carriage return that waited for them. -/
def resume (d : Decoder) (t : Text) : Text := if d.afterReturn then '\r' :: t else t

/-- The decoder and the text after some characters, when these bytes are owed. -/
def hold (owed : List UInt8) (t : Text) : Text × Decoder :=
  (Text.unifyLineEnds (Text.dropLast? '\r' t), ⟨owed, t.getLast? == some '\r'⟩)

/-- Reads one piece. The text has its line ends unified. A fault leaves the decoder as it
was. -/
def feed (d : Decoder) (piece : List UInt8) : Except Fault (Text × Decoder) :=
  let bs := d.owed ++ piece
  match decode bs with
  | .ok t => .ok (hold [] (d.resume t))
  | .error e =>
    if e.isPending bs then
      .ok (hold (bs.drop e.offset) (d.resume (decodeLenient (bs.take e.offset))))
    else .error e

/-- What is left of the text where no piece follows any more. -/
def finish (d : Decoder) : Except Fault Text :=
  (decode d.owed).map (fun t => Text.unifyLineEnds (d.resume t))

end Decoder

end StatementShell.Utf8
