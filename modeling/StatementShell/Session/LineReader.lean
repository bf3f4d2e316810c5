-- Reading the lines of bytes that may grow meanwhile. Bytes are read in pieces, and the next
-- piece only when no complete line is left of those before it.
import StatementShell.Session.Reading
import StatementShell.Text.Decoder

namespace StatementShell

/-- A reader of lines, between two reads. -/
structure LineReader where
  decoder : Utf8.Decoder
  /-- The text that was decoded, but not given out. -/
  waiting : Text
  /-- The bytes that were not read. -/
  unread : List UInt8
  deriving DecidableEq, Repr

namespace LineReader

/-- A reader that has read nothing. -/
def start (bs : List UInt8) : LineReader := ⟨.start, [], bs⟩

/-- The reader after more bytes have come to the end of those that it reads. -/
def extend (r : LineReader) (bs : List UInt8) : LineReader := { r with unread := r.unread ++ bs }

/-- The first line of a text, if it is complete, and the text after it. -/
def firstLine? (t : Text) : Option (Text × Text) :=
  match t.dropWhile (· != '\n') with
  | [] => none
  | _ :: rest => some (t.takeWhile (· != '\n'), rest)

/-- How many bytes a piece has after its first one, unless the bytes end before. -/
def pieceRest : Nat := 8191

/-- The read that has come to the end of the bytes. It gives what is left as a line. Bytes of
a character that is not complete are a failure, and no further read gets past it. -/
def readLast (r : LineReader) : Reading × LineReader :=
  match r.decoder.finish with
  | .error e => (.broken e, { r with waiting := [] })
  | .ok t =>
    match r.waiting ++ t with
    | [] => (.endOfInput, start [])
    | line => (.ofLine line, start [])

/-- One read. A piece that holds a fault is lost, together with the line begun before it. -/
def read (r : LineReader) : Reading × LineReader :=
  match firstLine? r.waiting with
  | some (line, rest) => (.ofLine line, { r with waiting := rest })
  | none =>
    match _h : r.unread with
    | [] => r.readLast
    | b :: bs =>
      match r.decoder.feed (b :: bs.take pieceRest) with
      | .ok (t, d) => read ⟨d, r.waiting ++ t, bs.drop pieceRest⟩
      | .error e =>
        (.raises (.failure (.undecodable e)), ⟨r.decoder, [], bs.drop pieceRest⟩)
termination_by r.unread.length
decreasing_by simp only [_h, List.length_cons, List.length_drop]; omega

/-- The first readings of bytes that do not grow, up to their end. -/
def readings : Nat → LineReader → List Reading
  | 0, _ => []
  | n + 1, r =>
    match r.read with
    | (.endOfInput, _) => []
    | (.broken e, _) => [.broken e]
    | (found, r) => found :: readings n r

/-- All readings of some bytes. Each but the end takes a byte at least, so as many reads as
there are bytes are enough, with one more. -/
def allReadings (bs : List UInt8) : List Reading := (start bs).readings (bs.length + 1)

end LineReader

end StatementShell
