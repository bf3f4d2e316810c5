-- Decimal text of floating-point numbers. A number is written with the fewest digits that
-- read back as that number, or with a fixed count of places; reading takes the decimal
-- nearest to what is written.
import StatementShell.Number.Binary64
import StatementShell.Number.Integer

namespace StatementShell.Binary64

/-! ## The fewest digits -/

/-- A positive decimal: `digits * 10 ^ power`. -/
structure Decimal where
  digits : Nat
  power : Int
  deriving DecidableEq, Repr

/-- The place of the first digit: the greatest `p` with `10 ^ p` at most the number. The
factor is large enough to lift the least number above one. -/
def firstPlace (m : Nat) (e : Int) : Int :=
  let (n, d) := fraction m e
  ((Integer.digits (n * Nat.pow 10 400 / d)).length : Int) - 401

/-- The decimal with the given count of digits that reads back as the number, if there is
one. Only the two neighbours of the number on the grid of such decimals can do; of two the
nearer is taken, and of two equally near ones the even. Distances are counted in quarters
of the significand's last bit, since the gap below a power of two is half as wide. -/
def withDigits? (m : Nat) (e : Int) (count : Nat) : Option Decimal :=
  let s := firstPlace m e - count + 1
  let scale := Nat.pow 2 (e - 2).toNat * Nat.pow 10 (-s).toNat
  let step := Nat.pow 10 s.toNat * Nat.pow 2 (2 - e).toNat
  let value := 4 * m * scale
  let low := (if m = Nat.pow 2 52 && decide (leastExponent < e) then 4 * m - 1 else 4 * m - 2) *
    scale
  let high := (4 * m + 2) * scale
  let closed := m % 2 == 0
  let below := value / step
  let rest := value % step
  let belowFits := decide (low < below * step) || (closed && decide (below * step = low))
  let aboveFits := decide ((below + 1) * step < high) ||
    (closed && decide ((below + 1) * step = high))
  match belowFits, aboveFits with
  | false, false => none
  | true, false => some ⟨below, s⟩
  | false, true => some ⟨below + 1, s⟩
  | true, true =>
    if 2 * rest < step then some ⟨below, s⟩
    else if step < 2 * rest then some ⟨below + 1, s⟩
    else if below % 2 = 0 then some ⟨below, s⟩
    else some ⟨below + 1, s⟩

/-- The decimal with the fewest digits that reads back as the number. Seventeen digits are
enough for every number. -/
def shortest (m : Nat) (e : Int) : Decimal :=
  ((List.range 17).findSome? (fun k => withDigits? m e (k + 1))).getD ⟨0, 0⟩

/-! ## Text -/

/-- How a number is laid out: which places of the first digit are written without an
exponent, and the least count of digits of an exponent. -/
structure Layout where
  leastPlace : Int
  greatestPlace : Int
  exponentDigits : Nat

/-- Numbers from `0.0001` up to `10 ^ 16` are written without an exponent. -/
def layout : Layout := ⟨-4, 15, 2⟩

/-- Digits with zeros in front, up to a width. -/
def padZeros (width : Nat) (t : Text) : Text := List.replicate (width - t.length) '0' ++ t

/-- A decimal under a layout. At least one digit stands on either side of the point. -/
def Decimal.text (l : Layout) (d : Decimal) : Text :=
  let ds := Text.dropBack '0' (Integer.digits d.digits)
  let place := d.power + (Integer.digits d.digits).length - 1
  if l.leastPlace ≤ place ∧ place ≤ l.greatestPlace then
    if place < 0 then "0." ++ List.replicate (-place - 1).toNat '0' ++ ds
    else
      let whole := ds.take (place.toNat + 1)
      let part := ds.drop (place.toNat + 1)
      whole ++ List.replicate (place.toNat + 1 - whole.length) '0' ++ "." ++
        (if part.isEmpty then ['0'] else part)
  else
    let tail := ds.drop 1
    ds.take 1 ++ (if tail.isEmpty then [] else '.' :: tail) ++
      (if place < 0 then "e-" else "e+") ++
      padZeros l.exponentDigits (Integer.digits place.natAbs)

/-- A sign in front of a text. -/
def signed (negative : Bool) (t : Text) : Text := if negative then '-' :: t else t

/-- The number as text, with the fewest digits that read back. -/
def text : Binary64 → Text
  | .nan => "nan"
  | .infinite s => signed s "inf"
  | .finite s m e => signed s (if m = 0 then "0.0" else (shortest m e).text layout)

/-- The number with a fixed count of places, a half of the last one to the even
neighbour. -/
def fixed (places : Nat) : Binary64 → Text
  | .nan => "nan"
  | .infinite s => signed s "inf"
  | .finite s m e =>
    let (n, d) := fraction m e
    let unit := Nat.pow 10 places
    let q := roundDiv (n * unit) d
    signed s (Integer.digits (q / unit) ++ "." ++ padZeros places (Integer.digits (q % unit)))

/-! ## Reading -/

/-- The number nearest to `n * 10 ^ power`. Powers that leave the format's range whatever
the digits are cut short first. -/
def ofDecimal (negative : Bool) (n : Nat) (power : Int) : Binary64 :=
  let place := power + (Integer.digits n).length
  if n = 0 || place < -400 then zero negative
  else if 400 < place then .infinite negative
  else round negative (n * Nat.pow 10 power.toNat) (Nat.pow 10 (-power).toNat)

/-- An exponent: a sign and digits. -/
def readExponent? (t : Text) : Option Int :=
  match t with
  | '-' :: r => (Integer.ungroup? r).map (fun ds => -(Text.numeral ds : Int))
  | '+' :: r => (Integer.ungroup? r).map (fun ds => (Text.numeral ds : Int))
  | r => (Integer.ungroup? r).map (fun ds => (Text.numeral ds : Int))

/-- Digits that may be missing. -/
def readPart? (t : Text) : Option Text := if t.isEmpty then some [] else Integer.ungroup? t

/-- An unsigned number: digits with a point and an exponent, or one of the words. -/
def readUnsigned? (negative : Bool) (t : Text) : Option Binary64 :=
  let word := t.map Char.toLower
  if word = "inf" || word = "infinity" then some (.infinite negative)
  else if word = "nan" then some .nan
  else do
    let isMark (c : Char) : Bool := c == 'e' || c == 'E'
    let body := t.takeWhile (!isMark ·)
    let power ← match t.dropWhile (!isMark ·) with
      | [] => some 0
      | _ :: r => readExponent? r
    let whole ← readPart? (body.takeWhile (· != '.'))
    let part ← readPart? ((body.dropWhile (· != '.')).drop 1)
    if whole.isEmpty && part.isEmpty then none
    else some (ofDecimal negative (Text.numeral (whole ++ part)) (power - part.length))

/-- Reads a number with blanks and a sign around it. -/
def read? (t : Text) : Option Binary64 :=
  match Text.trim t with
  | '-' :: r => readUnsigned? true r
  | '+' :: r => readUnsigned? false r
  | r => readUnsigned? false r

end StatementShell.Binary64
