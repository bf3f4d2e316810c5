-- The values that properties, commands and table cells hold: those of the plain types. A type of
-- its own that stands for text or whole numbers, and numbers of other types than these two, are
-- left out.
import StatementShell.Number.Decimal
import StatementShell.Text.Ragged

namespace StatementShell

/-- A value: nothing, a truth value, a number or a text, which may have surrogates in it. -/
inductive Value
  | null
  | boolean (b : Bool)
  | integer (i : Int)
  | real (x : Binary64)
  | text (t : Text)
  | ragged (r : Ragged)
  deriving DecidableEq, Repr

namespace Value

/-- A truth value as it is shown. -/
def booleanText (b : Bool) : Text := if b then "True" else "False"

/-- The value as it is shown, unless it is a whole number with too many digits. -/
def text? : Value → Option Text
  | .null => some "None"
  | .boolean b => some (booleanText b)
  | .integer i => Integer.write? i
  | .real x => some x.text
  | .text t => some t
  | .ragged r => some r.shown

/-- The value as it is shown, if it is a text. -/
def wording? : Value → Option Text
  | .text t => some t
  | .ragged r => some r.shown
  | _ => none

/-- The value as it is shown where a text has quotes around it. -/
def quoted? : Value → Option Text
  | .text t => some (Text.quoted t)
  | .ragged r => some r.quoted
  | v => v.text?

/-- Whether the value counts as true where a truth value is asked for. -/
def isTruthy : Value → Bool
  | .null => false
  | .boolean b => b
  | .integer i => i != 0
  | .real x => !x.isZero
  | .text t => !t.isEmpty
  | .ragged _ => true

/-- Whether the value is a number. A truth value is none. -/
def isNumber : Value → Bool
  | .integer _ => true
  | .real _ => true
  | _ => false

/-- The whole number that a value stands for in a comparison. -/
def whole? : Value → Option Int
  | .boolean b => some (if b then 1 else 0)
  | .integer i => some i
  | _ => none

/-- Whether two values compare as equal: the truth values equal zero and one. -/
def same (v w : Value) : Bool :=
  match v.whole?, w.whole? with
  | some i, some j => i == j
  | _, _ => v == w

end Value

end StatementShell
