-- Binary floating-point numbers of 64 bits, as exact values. Arithmetic is done on
-- fractions of whole numbers and rounded once at the end, to the nearest number that the
-- format has, a half to the even neighbour.

namespace StatementShell

/-- A number of the format: a significand below `2 ^ 53` times a power of two, with a sign,
or one of the values that are no number of their own. -/
inductive Binary64
  | nan
  | infinite (negative : Bool)
  | finite (negative : Bool) (significand : Nat) (exponent : Int)
  deriving DecidableEq, Repr

namespace Binary64

/-- The least exponent of a significand. -/
def leastExponent : Int := -1074

/-- The greatest exponent of a significand. -/
def greatestExponent : Int := 971

/-- Zero, with a sign. -/
def zero (negative : Bool) : Binary64 := .finite negative 0 leastExponent

/-- The quotient rounded to the nearest whole number, a half to the even neighbour. -/
def roundDiv (num den : Nat) : Nat :=
  let q := num / den
  let r := num % den
  if 2 * r < den then q
  else if den < 2 * r then q + 1
  else if q % 2 = 0 then q
  else q + 1

/-- A power of two as a fraction. -/
def powerOfTwo (e : Int) : Nat × Nat := (Nat.pow 2 e.toNat, Nat.pow 2 (-e).toNat)

/-- The greatest `e` with `2 ^ e ≤ num / den`, for positive numbers. -/
def floorLog (num den : Nat) : Int :=
  let e : Int := (num.log2 : Int) - den.log2
  let (up, down) := powerOfTwo e
  if den * up ≤ num * down then e else e - 1

/-- The number nearest to a fraction. -/
def round (negative : Bool) (num den : Nat) : Binary64 :=
  if num = 0 then zero negative
  else
    let e := max (floorLog num den - 52) leastExponent
    let (up, down) := powerOfTwo e
    let m := roundDiv (num * down) (den * up)
    let (m, e) := if m = Nat.pow 2 53 then (Nat.pow 2 52, e + 1) else (m, e)
    if greatestExponent < e then .infinite negative else .finite negative m e

/-- The size of a finite number as a fraction. -/
def fraction (m : Nat) (e : Int) : Nat × Nat :=
  let (up, down) := powerOfTwo e
  (m * up, down)

/-- The number nearest to a whole number, unless that is beyond all finite numbers. -/
def ofInt? (i : Int) : Option Binary64 :=
  match round (decide (i < 0)) i.natAbs 1 with
  | .finite s m e => some (.finite s m e)
  | _ => none

/-- Whether the sign is set. -/
def isNegative : Binary64 → Bool
  | .nan => false
  | .infinite s => s
  | .finite s _ _ => s

/-- Whether the number is a zero. -/
def isZero : Binary64 → Bool
  | .finite _ m _ => m == 0
  | _ => false

/-- The product. -/
def mul : Binary64 → Binary64 → Binary64
  | .nan, _ => .nan
  | _, .nan => .nan
  | .infinite s, y => if y.isZero then .nan else .infinite (s != y.isNegative)
  | x, .infinite s => if x.isZero then .nan else .infinite (s != x.isNegative)
  | .finite s m e, .finite s' m' e' =>
    let (n, d) := fraction (m * m') (e + e')
    round (s != s') n d

/-- The difference. Equal numbers have the positive zero between them. -/
def sub : Binary64 → Binary64 → Binary64
  | .nan, _ => .nan
  | _, .nan => .nan
  | .infinite s, .infinite s' => if s = s' then .nan else .infinite s
  | .infinite s, _ => .infinite s
  | _, .infinite s => .infinite (!s)
  | .finite s m e, .finite s' m' e' =>
    let (n, d) := fraction m e
    let (n', d') := fraction m' e'
    let signed (s : Bool) (k : Nat) : Int := if s then -(k : Int) else k
    let diff := signed s (n * d') - signed s' (n' * d)
    if diff = 0 then zero (m == 0 && m' == 0 && s && !s')
    else round (decide (diff < 0)) diff.natAbs (d * d')

end Binary64

end StatementShell
