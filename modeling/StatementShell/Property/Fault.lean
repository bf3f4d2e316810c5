-- What can be wrong with the use of a property.
import StatementShell.Number.Integer

namespace StatementShell.Property

/-- What is wrong with a name or with the value for it. -/
inductive Fault
  | unknown (name : Text)
  | readOnly (name : Text)
  | notInteger (name : Text)
  | outOfRange (name : Text) (low high : Int)
  | notBoolean (name : Text)
  | notText (name : Text)
  | notAmong (name : Text) (allowed : List Text)
  | tooLong (name : Text) (limit : Int)
  deriving DecidableEq, Repr

/-- The words for a fault. -/
def Fault.message : Fault → Text
  | .unknown name => "No property named \"" ++ name ++ "\""
  | .readOnly name =>
    "Property \"" ++ name ++
      "\" is read-only during normal operation, and should only be set at start-up."
  | .notInteger name => "Property \"" ++ name ++ "\" requires an integer value."
  | .outOfRange name low high =>
    "Property \"" ++ name ++ "\" must be between " ++ Integer.write low ++ " and " ++
      Integer.write high ++ "."
  | .notBoolean name => "Property \"" ++ name ++ "\" requires a boolean value."
  | .notText name => "Property \"" ++ name ++ "\" requires a string value."
  | .notAmong name allowed =>
    "Property \"" ++ name ++ "\" must be one of " ++ Text.joined ", " allowed ++ "."
  | .tooLong name limit =>
    "Property \"" ++ name ++ "\" is limited to " ++ Integer.write limit ++ " characters."

/-- Whether the words can be written: their numbers must not have too many digits. -/
def Fault.isWritable : Fault → Bool
  | .outOfRange _ low high => (Integer.write? low).isSome && (Integer.write? high).isSome
  | .tooLong _ limit => (Integer.write? limit).isSome
  | _ => true

end StatementShell.Property
