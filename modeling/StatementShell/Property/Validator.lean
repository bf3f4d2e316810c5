-- Checks of property values. A check takes a value of any type, since a value may come
-- from a command or, as text, from a file; what it gives back has the property's own type.
-- The texts that a property allows have no surrogates in them.
import StatementShell.Failure
import StatementShell.Text.LetterCase

namespace StatementShell.Property

/-- Which values a property takes. -/
inductive Validator
  | any
  | integer (low high : Int)
  | boolean
  | string (allowed : Option (List Text)) (limit : Int)
  deriving DecidableEq, Repr

namespace Validator

/-- The name of the type of the values. -/
def typeName : Validator → Text
  | .any => "any"
  | .integer _ _ => "integer"
  | .boolean => "boolean"
  | .string _ _ => "string"

/-- The bounds of whole numbers where none are given. -/
def defaultRange : Int × Int := (0, 65535)

/-- The most characters of a text where no limit is given. -/
def defaultLimit : Int := 1024

/-- The words that stand for true. -/
def trueWords : List Text := ["true".toList, "yes".toList, "on".toList, "1".toList]

/-- The words that stand for false. -/
def falseWords : List Text := ["false".toList, "no".toList, "off".toList, "0".toList]

/-- The whole number that a value gives. A truth value gives none. -/
def wholeNumber? : Value → Option Int
  | .integer i => some i
  | .text t =>
    match Integer.read t with
    | .ok i => some i
    | .error _ => none
  | _ => none

/-- The truth value that a value gives. -/
def truthValue? : Value → Option Bool
  | .boolean b => some b
  | .text t =>
    let word := Text.fold (Text.trim t)
    if trueWords.contains word then some true
    else if falseWords.contains word then some false
    else none
  | _ => none

/-- Refuses a value. -/
def refuse {α : Type} (e : Fault) : Except Failure α :=
  .error (if e.isWritable then .property e else .numberTooLong)

/-- Checks a whole number against its bounds. -/
def checkRange (name : Text) (low high i : Int) : Except Failure Value :=
  if low ≤ i ∧ i ≤ high then .ok (.integer i) else refuse (.outOfRange name low high)

/-- Checks the length of a text, which is the value. -/
def checkLength (name : Text) (limit : Int) (length : Nat) (value : Value) :
    Except Failure Value :=
  if limit < length then refuse (.tooLong name limit) else .ok value

/-- Checks a text against the texts allowed and the limit of its length. -/
def checkText (name : Text) (allowed : Option (List Text)) (limit : Int) (t : Text) :
    Except Failure Value :=
  match allowed with
  | some ts =>
    if ts.contains t then checkLength name limit t.length (.text t)
    else refuse (.notAmong name ts)
  | none => checkLength name limit t.length (.text t)

/-- Checks a text with surrogates, which is none of the texts allowed. -/
def checkRagged (name : Text) (allowed : Option (List Text)) (limit : Int) (r : Ragged) :
    Except Failure Value :=
  match allowed with
  | some ts => refuse (.notAmong name ts)
  | none => checkLength name limit r.length (.ragged r)

/-- Checks a value for the property of some name. -/
def validate (v : Validator) (name : Text) (value : Value) : Except Failure Value :=
  match v with
  | .any => .ok value
  | .integer low high =>
    match wholeNumber? value with
    | some i => checkRange name low high i
    | none => refuse (.notInteger name)
  | .boolean =>
    match truthValue? value with
    | some b => .ok (.boolean b)
    | none => refuse (.notBoolean name)
  | .string allowed limit =>
    match value with
    | .text t => checkText name allowed limit t
    | .ragged r => checkRagged name allowed limit r
    | _ => refuse (.notText name)

/-! ### Failures of a check -/

theorem hasWords_of_refuse {α : Type} {e : Fault} {f : Failure}
    (h : (refuse e : Except Failure α) = .error f) : f.HasWords := by
  cases h
  split <;> rfl

theorem hasWords_of_checkRange {name : Text} {low high i : Int} {f : Failure}
    (h : checkRange name low high i = .error f) : f.HasWords := by
  unfold checkRange at h
  split at h
  · cases h
  · exact hasWords_of_refuse h

theorem hasWords_of_checkLength {name : Text} {limit : Int} {n : Nat} {v : Value} {f : Failure}
    (h : checkLength name limit n v = .error f) : f.HasWords := by
  unfold checkLength at h
  split at h
  · exact hasWords_of_refuse h
  · cases h

theorem hasWords_of_checkText {name : Text} {allowed : Option (List Text)} {limit : Int}
    {t : Text} {f : Failure} (h : checkText name allowed limit t = .error f) : f.HasWords := by
  unfold checkText at h
  split at h
  · split at h
    · exact hasWords_of_checkLength h
    · exact hasWords_of_refuse h
  · exact hasWords_of_checkLength h

theorem hasWords_of_checkRagged {name : Text} {allowed : Option (List Text)} {limit : Int}
    {r : Ragged} {f : Failure} (h : checkRagged name allowed limit r = .error f) :
    f.HasWords := by
  unfold checkRagged at h
  split at h
  · exact hasWords_of_refuse h
  · exact hasWords_of_checkLength h

/-- A check that refuses a value says why. -/
theorem hasWords_of_validate {v : Validator} {name : Text} {value : Value} {f : Failure}
    (h : v.validate name value = .error f) : f.HasWords := by
  cases v with
  | any => cases h
  | integer low high =>
    unfold validate at h
    dsimp only at h
    split at h
    · exact hasWords_of_checkRange h
    · exact hasWords_of_refuse h
  | boolean =>
    unfold validate at h
    dsimp only at h
    split at h
    · cases h
    · exact hasWords_of_refuse h
  | string allowed limit =>
    unfold validate at h
    dsimp only at h
    split at h
    · exact hasWords_of_checkText h
    · exact hasWords_of_checkRagged h
    · exact hasWords_of_refuse h

end Validator

end StatementShell.Property
