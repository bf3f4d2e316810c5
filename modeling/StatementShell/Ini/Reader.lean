-- Reading ini documents, one line after the other. What a line means hangs on its indent:
-- a line that is indented deeper than the option before it goes on with the value of that
-- option, whatever it looks like.
import StatementShell.Ini.Basic
import StatementShell.Text.LetterCase
import StatementShell.Text.Line

namespace StatementShell.Ini

/-! ## One line -/

/-- The section whose options stand for all sections. -/
def commonSection : Text := "DEFAULT"

/-- Whether a trimmed line is a comment. -/
def isComment : Text → Bool
  | '#' :: _ => true
  | ';' :: _ => true
  | _ => false

/-- How many blanks stand at the front of a line. -/
def indentOf (line : Text) : Nat := (line.takeWhile Text.isBlank).length

/-- The name between the first bracket of a trimmed line and the last one, if the line
begins with a bracket and the name is not empty. -/
def heading? (line : Text) : Option Text :=
  match line with
  | '[' :: r =>
    let name := ((r.reverse.dropWhile (· != ']')).drop 1).reverse
    if name.isEmpty then none else some name
  | _ => none

/-- Whether a character stands between the name of an option and its value. -/
def isDelimiter (c : Char) : Bool := c == '=' || c == ':'

/-- The name and the value that a trimmed line gives, if it has a delimiter. -/
def item? (line : Text) : Option Item :=
  match line.dropWhile (!isDelimiter ·) with
  | [] => none
  | _ :: r =>
    let name := line.takeWhile (!isDelimiter ·)
    some ⟨Text.fold (Text.trimBack name), Text.trim r⟩

/-! ## The state between two lines -/

/-- An option as far as it was read: its section, and the lines of its value, the last one
first. -/
structure Draft where
  heading : Text
  name : Text
  lines : List Text
  deriving DecidableEq, Repr

/-- What was read so far. The options stand in reverse order, and the value of the first
one may still go on if it is open. -/
structure State where
  headings : List Text
  drafts : List Draft
  current : Option Text
  isOpen : Bool
  indent : Nat
  broken : List BrokenLine
  deriving DecidableEq, Repr

/-- Nothing read. -/
def State.start : State := ⟨[], [], none, false, 0, []⟩

/-- One more line of the value of the open option. -/
def State.extend (s : State) (line : Text) : State :=
  match s.drafts with
  | [] => s
  | d :: r => { s with drafts := { d with lines := line :: d.lines } :: r }

/-- A heading. The common section may come back, every other section comes once. -/
def State.enter (s : State) (source : Text) (number : Nat) (name : Text) :
    Except Fault State :=
  if s.headings.contains name && name != commonSection then
    .error (.repeatedSection source number name)
  else .ok { s with headings := name :: s.headings, current := some name, isOpen := false }

/-- Whether a section has an option. -/
def State.hasItem (s : State) (heading name : Text) : Bool :=
  s.drafts.any (fun d => d.heading == heading && d.name == name)

/-- An option of the current section. One without a name is broken, but counts among the
options; its value never goes on. -/
def State.add (s : State) (source : Text) (number : Nat) (line heading : Text) (i : Item) :
    Except Fault State :=
  if s.hasItem heading i.name then .error (.repeatedOption source number heading i.name)
  else
    .ok { s with
      drafts := ⟨heading, i.name, [i.value]⟩ :: s.drafts
      isOpen := !i.name.isEmpty
      broken := if i.name.isEmpty then s.broken ++ [⟨number, line⟩] else s.broken }

/-- One line that is neither blank nor a comment. -/
def State.element (s : State) (source : Text) (number : Nat) (line : Text) :
    Except Fault State :=
  let body := Text.trim line
  let indent := indentOf line
  if s.isOpen ∧ s.indent < indent then .ok (s.extend body)
  else
    let s := { s with indent := indent }
    match heading? body, s.current with
    | some name, _ => s.enter source number name
    | none, none => .error (.noSection source ⟨number, line⟩)
    | none, some heading =>
      match item? body with
      | some i => s.add source number line heading i
      | none => .ok { s with broken := s.broken ++ [⟨number, line⟩] }

/-- One line. Comments are passed over; a blank line goes into an open value, since more
lines of the value may follow. -/
def State.line (s : State) (source : Text) (number : Nat) (line : Text) : Except Fault State :=
  let body := Text.trim line
  if isComment body then .ok s
  else if body.isEmpty then .ok (if s.isOpen then s.extend [] else s)
  else s.element source number line

/-- All lines, counted from the given number on. -/
def State.run (s : State) (source : Text) : Nat → List Text → Except Fault State
  | _, [] => .ok s
  | number, l :: ls =>
    match s.line source number l with
    | .error e => .error e
    | .ok t => t.run source (number + 1) ls

/-! ## Documents -/

/-- A document: the names of its sections, and its options in order, each with its
section. -/
structure Document where
  headings : List Text
  items : List (Text × Item)
  deriving DecidableEq, Repr

/-- The option that a draft stands for. Blank lines at its end are no part of it. -/
def Draft.finish (d : Draft) : Text × Item :=
  (d.heading, ⟨d.name, Text.trimBack (Text.joined ['\n'] d.lines.reverse)⟩)

/-- Reads a document. Broken lines are reported together, after the last line. -/
def read (source : Text) (t : Text) : Except Fault Document :=
  match State.start.run source 1 (Text.lines t) with
  | .error e => .error e
  | .ok s =>
    if s.broken.isEmpty then .ok ⟨s.headings.reverse, s.drafts.reverse.map Draft.finish⟩
    else .error (.brokenLines source s.broken)

/-- The options that stand under one heading. -/
def Document.under (d : Document) (name : Text) : List Item :=
  (d.items.filter (fun i => i.1 == name)).map (·.2)

/-- The options of a section, if the document has it: the common ones first, with the value
that the section gives them, then the section's own. -/
def Document.section? (d : Document) (name : Text) : Option (List Item) :=
  if d.headings.contains name then
    let own := d.under name
    let common := d.under commonSection
    let value (i : Item) : Item := (own.find? (fun o => o.name == i.name)).getD i
    some (common.map value ++ own.filter (fun o => !common.any (fun i => i.name == o.name)))
  else none

end StatementShell.Ini
