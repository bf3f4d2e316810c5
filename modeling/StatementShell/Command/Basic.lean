-- The shell's own commands.
import StatementShell.Value

namespace StatementShell

/-- A command that the shell runs itself. -/
inductive Command
  | exit
  | setProperty (name : Text) (value : Value)
  | showProperties
  | showProperty (name : Text)
  deriving DecidableEq, Repr

namespace Command

/-- The name of a command's kind. -/
def label : Command → Text
  | .exit => "ExitCommand"
  | .setProperty _ _ => "SetProperty"
  | .showProperties => "ShowProperties"
  | .showProperty _ => "ShowProperty"

/-- What a command holds besides its kind, by name. -/
def fields : Command → List (Text × Value)
  | .exit => []
  | .setProperty name value => [("name".toList, .text name), ("value".toList, value)]
  | .showProperties => []
  | .showProperty name => [("name".toList, .text name)]

/-- The command as it is shown, unless it holds a number with too many digits. -/
def describe? (c : Command) : Option Text := do
  let shown ← c.fields.mapM (fun (name, value) => do
    let v ← value.quoted?
    pure (' ' :: name ++ "=" ++ v : Text))
  pure ("<" ++ c.label ++ shown.flatten ++ ">")

/-- Whether two commands compare as equal: the same kind, and values that compare as
equal. -/
def same : Command → Command → Bool
  | .exit, .exit => true
  | .setProperty n v, .setProperty m w => n == m && v.same w
  | .showProperties, .showProperties => true
  | .showProperty n, .showProperty m => n == m
  | _, _ => false

end Command

end StatementShell
