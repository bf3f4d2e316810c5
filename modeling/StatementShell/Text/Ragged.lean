-- Texts with surrogates in them. A surrogate is half of a character in UTF-16 and no character
-- itself, so a text has none; but what a program is given as the value of a property may have.
-- Such a value can be kept and compared. UTF-8 cannot write it, and where it is shown, a question
-- mark stands for each surrogate. Only values are taken to have any: names, statements and messages
-- are texts.
import StatementShell.Text.Quoted

namespace StatementShell

/-- A surrogate, by its place among all of them. -/
abbrev Surrogate := Fin 2048

/-- The code point of a surrogate. -/
def Surrogate.code (s : Surrogate) : Nat := 0xd800 + s.val

/-- What stands at one place of a text that may have surrogates in it. -/
inductive Point
  | character (c : Char)
  | surrogate (s : Surrogate)
  deriving DecidableEq, Repr

namespace Point

/-- The character that is shown at a place. -/
def shown : Point → Char
  | .character c => c
  | .surrogate _ => '?'

/-- What stands at a place, inside the given quotes. -/
def escape (quote : Char) : Point → Text
  | .character c => Text.escape quote c
  | .surrogate s => ['\\', 'u'] ++ Text.hex 4 (Surrogate.code s)

def isSurrogate : Point → Bool
  | .character _ => false
  | .surrogate _ => true

end Point

/-- A text that has surrogates in it: the characters in front of the first one, this one, and what
stands behind it. -/
structure Ragged where
  front : Text
  first : Surrogate
  rest : List Point
  deriving DecidableEq, Repr

namespace Ragged

/-- How many characters and surrogates there are. -/
def length (r : Ragged) : Nat := r.front.length + 1 + r.rest.length

/-- The text as it is shown. -/
def shown (r : Ragged) : Text := r.front ++ '?' :: r.rest.map Point.shown

/-- The text in quotes. Surrogates are written by their code points. -/
def quoted (r : Ragged) : Text :=
  let q := Text.quoteFor r.shown
  q :: r.front.flatMap (Text.escape q) ++ Point.escape q (.surrogate r.first) ++
    r.rest.flatMap (Point.escape q) ++ [q]

/-- Why UTF-8 cannot write something: surrogates in a row. -/
structure Fault where
  /-- How many characters stand in front of them. -/
  offset : Nat
  /-- How many there are. -/
  length : Nat
  first : Surrogate
  deriving DecidableEq, Repr

/-- Why UTF-8 cannot write the text at the end of so many characters. -/
def fault (r : Ragged) (offset : Nat) : Fault :=
  ⟨offset, (r.rest.takeWhile Point.isSurrogate).length + 1, r.first⟩

end Ragged

end StatementShell
