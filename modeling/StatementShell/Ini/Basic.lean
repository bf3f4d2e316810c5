-- Ini documents. A document has sections of options with values; a value may go on over
-- several lines, the later ones indented. Here are the faults that a document may have and
-- the form in which a section is written.
import StatementShell.Number.Integer
import StatementShell.Text.Quoted

namespace StatementShell.Ini

/-- An option: its name and its value. -/
structure Item where
  name : Text
  value : Text
  deriving DecidableEq, Repr

/-- A line that gives no option, by number. -/
structure BrokenLine where
  number : Nat
  line : Text
  deriving DecidableEq, Repr

/-- Why a document is not read. Every fault names the document. -/
inductive Fault
  | noSection (source : Text) (broken : BrokenLine)
  | brokenLines (source : Text) (broken : List BrokenLine)
  | repeatedSection (source : Text) (number : Nat) (heading : Text)
  | repeatedOption (source : Text) (number : Nat) (heading : Text) (name : Text)
  deriving DecidableEq, Repr

namespace Fault

/-- The kind under which a fault is reported. -/
def kind : Fault → Text
  | .noSection _ _ => "MissingSectionHeaderError"
  | .brokenLines _ _ => "ParsingError"
  | .repeatedSection _ _ _ => "DuplicateSectionError"
  | .repeatedOption _ _ _ _ => "DuplicateOptionError"

/-- The number of a line in brackets, at least two characters wide. -/
def place (number : Nat) : Text :=
  let ds := Integer.digits number
  "[line " ++ List.replicate (2 - ds.length) ' ' ++ ds ++ "]"

/-- The words for a fault. -/
def message : Fault → Text
  | .noSection source b =>
    "File contains no section headers.\nfile: " ++ Text.quoted source ++ ", line: " ++
      Integer.digits b.number ++ "\n" ++ Text.quoted b.line
  | .brokenLines source bs =>
    "Source contains parsing errors: " ++ Text.quoted source ++
      bs.flatMap (fun b => ("\n\t" ++ place b.number ++ ": " ++ Text.quoted b.line : Text))
  | .repeatedSection source number s =>
    "While reading from " ++ Text.quoted source ++ " " ++ place number ++ ": section " ++
      Text.quoted s ++ " already exists"
  | .repeatedOption source number s o =>
    "While reading from " ++ Text.quoted source ++ " " ++ place number ++ ": option " ++
      Text.quoted o ++ " in section " ++ Text.quoted s ++ " already exists"

end Fault

/-! ## Writing -/

/-- A value as it is written: the lines after the first are indented by a tab. -/
def writeValue (v : Text) : Text := v.flatMap (fun c => if c = '\n' then ['\n', '\t'] else [c])

/-- An option as it is written. -/
def writeItem (i : Item) : Text := i.name ++ " = " ++ writeValue i.value ++ "\n"

/-- The first line of a section as it is written. -/
def writeSection (name : Text) : Text := "[" ++ name ++ "]\n"

/-- A document of one section. A blank line ends the section. -/
def write (name : Text) (items : List Item) : Text :=
  writeSection name ++ items.flatMap writeItem ++ "\n"

end StatementShell.Ini
