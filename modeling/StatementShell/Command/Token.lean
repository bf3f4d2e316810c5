-- The tokens of the shell's own commands, and what a stretch of text is to the lexer: a
-- token of some shape, a run of line feeds, or a gap that is skipped.
import StatementShell.Text.LetterCase
import StatementShell.Text.Digit
import StatementShell.Value

namespace StatementShell.Command

/-- The kinds of token. -/
inductive TokenKind
  | exit
  | quit
  | set
  | showWord
  | property
  | properties
  | equals
  | semicolon
  | name
  | integer
  | singleQuoted
  | doubleQuoted
  | trueWord
  | falseWord
  deriving DecidableEq, Repr

/-- The name of a kind, as reports about commands give it. -/
def TokenKind.label : TokenKind → Text
  | .exit => "EXIT"
  | .quit => "QUIT"
  | .set => "SET"
  | .showWord => "SHOW"
  | .property => "PROPERTY"
  | .properties => "PROPERTIES"
  | .equals => "EQ"
  | .semicolon => "SEMICOLON"
  | .name => "ID"
  | .integer => "INTEGER"
  | .singleQuoted => "QUOTE_STRING"
  | .doubleQuoted => "DQUOTE_STRING"
  | .trueWord => "TRUE"
  | .falseWord => "FALSE"

/-- A token: its kind and value, the line and the place where it begins, and the text it
was read from. -/
structure Token where
  kind : TokenKind
  value : Value
  line : Nat
  start : Nat
  lexeme : Text
  deriving DecidableEq, Repr

/-- The place where a token ends. -/
def Token.stop (t : Token) : Nat := t.start + t.lexeme.length

/-! ## Names and keywords -/

/-- Whether a name may begin with a character. -/
def isNameStart (c : Char) : Bool :=
  c.isAlpha || c == '_' || c == 'İ' || c == 'ı' || c == 'ſ' || c == '\u212a'

/-- Whether a name may go on with a character. -/
def isNamePart (c : Char) : Bool := isNameStart c || c == '$' || c.isDigit

/-- The words that are kept for commands, in capitals. -/
def keywords : List (Text × TokenKind) := [
  ("EXIT".toList, .exit), ("QUIT".toList, .quit), ("SET".toList, .set),
  ("SHOW".toList, .showWord), ("PROPERTY".toList, .property),
  ("PROPERTIES".toList, .properties), ("TRUE".toList, .trueWord),
  ("FALSE".toList, .falseWord)]

/-- The kind of a name: a keyword in any mixture of capitals and small letters, or a plain
name. -/
def nameKind (lexeme : Text) : TokenKind :=
  (keywords.lookup (lexeme.map Text.keywordCapital)).getD .name

/-! ## Shapes -/

/-- What a stretch of text is to the lexer. -/
inductive Shape
  | gap
  | newlines
  | equals
  | semicolon
  | name
  | number
  | singleQuoted
  | doubleQuoted
  deriving DecidableEq, Repr

/-- How far a name goes on: parts of names, and points between two of them. -/
def nameTail : Text → Nat
  | [] => 0
  | '.' :: d :: r => if isNamePart d then nameTail r + 2 else 0
  | c :: r => if isNamePart c then nameTail r + 1 else 0

/-- How far it is to the end of a comment, its closing mark included. -/
def commentTail? : Text → Option Nat
  | [] => none
  | '*' :: '/' :: _ => some 2
  | _ :: r => (commentTail? r).map (· + 1)

/-- How far it is to the given quote, the quote included. -/
def quoteTail? (quote : Char) (t : Text) : Option Nat :=
  if t.contains quote then some ((t.takeWhile (· != quote)).length + 1) else none

/-- How many characters at the front are digits. -/
def digitRun (t : Text) : Nat := (t.takeWhile Text.isDigit).length

/-- The shape of what a text begins with, and how long it is. Comments come before numbers,
so two minus signs never begin a number; a comment or a quote that is not closed has no
shape. -/
def shape? : Text → Option (Shape × Nat)
  | [] => none
  | '/' :: '*' :: r => (commentTail? r).map (fun n => (.gap, n + 2))
  | '-' :: '-' :: r => some (.gap, (r.takeWhile (· != '\n')).length + 2)
  | '-' :: r => if digitRun r = 0 then none else some (.number, digitRun r + 1)
  | '\'' :: r => (quoteTail? '\'' r).map (fun n => (.singleQuoted, n + 1))
  | '"' :: r => (quoteTail? '"' r).map (fun n => (.doubleQuoted, n + 1))
  | c :: r =>
    if c = ' ' ∨ c = '\t' ∨ c = '\r' then some (.gap, 1)
    else if c = '=' then some (.equals, 1)
    else if c = ';' then some (.semicolon, 1)
    else if isNameStart c then some (.name, nameTail r + 1)
    else if Text.isDigit c then some (.number, digitRun r + 1)
    else if c = '\n' then some (.newlines, (r.takeWhile (· == '\n')).length + 1)
    else none

end StatementShell.Command
