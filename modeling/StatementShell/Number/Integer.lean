-- Whole numbers as text. Reading takes the digits of every script and single underscores
-- between digits; both directions refuse numbers of more digits than the limit, so that no
-- statement can make the shell spend its time on one number.
import StatementShell.Text.Blank
import StatementShell.Text.Digit

namespace StatementShell.Integer

/-- The most digits that a number may have when it is read or written. -/
def digitLimit : Nat := 4300

/-- The digits of a number in base ten. -/
def digits (n : Nat) : Text := Nat.toDigits 10 n

/-- A number as text, however long it is. -/
def write (i : Int) : Text := if i < 0 then '-' :: digits i.natAbs else digits i.natAbs

/-- A number as text, unless it has too many digits. -/
def write? (i : Int) : Option Text :=
  if (digits i.natAbs).length ≤ digitLimit then some (write i) else none

/-- Why a text is not read as a number. -/
inductive Fault
  | malformed
  | tooLong (digits : Nat)
  deriving DecidableEq, Repr

/-- The digits of a text that holds nothing but digits and single underscores between
them. -/
def ungroup? : Text → Option Text
  | [] => none
  | [c] => if Text.isDigit c then some [c] else none
  | c :: '_' :: r => if Text.isDigit c then (ungroup? r).map (c :: ·) else none
  | c :: r => if Text.isDigit c then (ungroup? r).map (c :: ·) else none

/-- The number that some digits write, unless there are too many of them. -/
def ofDigits (negative : Bool) (ds : Text) : Except Fault Int :=
  if digitLimit < ds.length then .error (.tooLong ds.length)
  else
    let n : Int := Text.numeral ds
    .ok (if negative then -n else n)

/-- The number without blanks around it. -/
def readTrimmed (t : Text) : Except Fault Int :=
  let (negative, body) :=
    match t with
    | '-' :: r => (true, r)
    | '+' :: r => (false, r)
    | r => (false, r)
  match ungroup? body with
  | some ds => ofDigits negative ds
  | none => .error .malformed

/-- Reads a number: blanks around it, a sign and groups of digits are all allowed. -/
def read (t : Text) : Except Fault Int := readTrimmed (Text.trim t)

end StatementShell.Integer
